import StageForge.Library.TwoSlots
import StageForge.Native.Automation
import StageForge.Native.Routing

/-!
# Route tables and versions of the show

`AudioGraph` of `native/audio_graph.cpp` keeps its route table in two slots, and so does `CoreRuntimeShow` of
`native/runtime_show.hpp` its version of the show. Readers pin the active slot and writers fill the other.
-/

namespace StageForge

open TransitionSystem TwoSlots

/-! ## The graph -/

def audioGraphMaxSources : ℕ := 32

def audioGraphMaxOutputs : ℕ := 16

abbrev RouteCell := Fin audioGraphMaxSources × Fin audioGraphMaxOutputs

structure AudioRouteChange (F : FloatType) where
  source : UInt8
  output : UInt8
  linearGain : F.Carrier

section

variable {F : FloatType} {ω ρ : Type}

def clampGain (gain : F.Carrier) : F.Carrier := if F.finite gain = false then F.literal 0
  else if F.less gain (F.literal 0) then F.literal 0
  else if F.less (F.literal 4) gain then F.literal 4
  else gain

namespace AudioRouteChange

/-- The cell that a change is about, if there is one. -/
def cell (c : AudioRouteChange F) : Option RouteCell :=
  if h : c.source.toNat < audioGraphMaxSources ∧ c.output.toNat < audioGraphMaxOutputs then
    some (⟨c.source.toNat, h.1⟩, ⟨c.output.toNat, h.2⟩)
  else none

/-- A change that `apply_route_transaction` does not turn away. -/
def valid (c : AudioRouteChange F) : Bool := c.cell.isSome && F.finite c.linearGain

def write (c : AudioRouteChange F) : Option (RouteCell × F.Carrier) :=
  c.cell.map fun cell => (cell, clampGain c.linearGain)

end AudioRouteChange

/-- The changes of a transaction that is not turned away. -/
structure RouteTransaction (F : FloatType) where
  changes : List (AudioRouteChange F)
  valid : changes.all AudioRouteChange.valid = true

def RouteTransaction.writes (tx : RouteTransaction F) : List (RouteCell × F.Carrier) :=
  tx.changes.filterMap AudioRouteChange.write

lemma RouteTransaction.writes_map (tx : RouteTransaction F) :
    tx.writes.map some = tx.changes.map AudioRouteChange.write := by
  have hsome (c : AudioRouteChange F) (hc : c ∈ tx.changes) : c.write.isSome = true := by
    have hvalid := List.all_eq_true.mp tx.valid c hc
    rw [AudioRouteChange.valid, Bool.and_eq_true] at hvalid
    rw [AudioRouteChange.write, Option.isSome_map]
    exact hvalid.1
  have hmap : ∀ changes : List (AudioRouteChange F), (∀ c ∈ changes, c.write.isSome = true) →
      (changes.filterMap AudioRouteChange.write).map some = changes.map AudioRouteChange.write := by
    intro changes hchanges
    induction changes with
    | nil => rfl
    | cons c changes ih =>
      obtain ⟨w, hw⟩ := Option.isSome_iff_exists.mp (hchanges c List.mem_cons_self)
      rw [List.filterMap_cons_some hw, List.map_cons, List.map_cons, hw,
        ih fun d hd => hchanges d (List.mem_cons_of_mem c hd)]
  exact hmap tx.changes hsome

def routeCells : List RouteCell := (List.finRange audioGraphMaxSources).flatMap fun source =>
    (List.finRange audioGraphMaxOutputs).map fun output => (source, output)

lemma mem_routeCells (cell : RouteCell) : cell ∈ routeCells :=
  List.mem_flatMap.mpr ⟨cell.1, List.mem_finRange _, List.mem_map.mpr ⟨cell.2, List.mem_finRange _, rfl⟩⟩

/-- The active table is copied, and the changes are written over it. -/
def routePublication (F : FloatType) : Publication RouteCell F.Carrier (RouteTransaction F) :=
  Publication.ofWrites routeCells mem_routeCells RouteTransaction.writes

def silentRoutes (F : FloatType) : RouteCell → F.Carrier := fun _ => F.literal 0

/-- Where a thread stands in `apply_route_transaction`. -/
inductive RouteWriter (F : FloatType)
  | idle
  /-- It tests and sets the flag. -/
  | acquire (tx : RouteTransaction F)
  | loadActive (tx : RouteTransaction F)
  | inside (tx : RouteTransaction F)
  | clear (tx : RouteTransaction F)

def RouteWriter.Holds : RouteWriter F → Prop
  | .idle | .acquire _ => False
  | _ => True

structure AudioGraph (F : FloatType) (ω ρ : Type) where
  core : Core RouteCell F.Carrier (RouteTransaction F) ρ
  /-- The flag that one writer at a time has set. -/
  routeWriter : Bool := false
  writers : ω → RouteWriter F := fun _ => .idle
  /-- The transactions that have returned `true`. -/
  completed : List (RouteTransaction F) := []

inductive RouteAction (F : FloatType) (ω ρ : Type)
  | applyRouteTransaction (w : ω) (changes : List (AudioRouteChange F))
  | writer (w : ω)
  | reader (action : ReaderAction RouteCell ρ)

namespace AudioGraph

variable [DecidableEq ω] [DecidableEq ρ]

def start : AudioGraph F ω ρ := { core := Core.start (silentRoutes F) }

def writerStep (g : AudioGraph F ω ρ) (w : ω) : Option (AudioGraph F ω ρ) := match g.writers w with
  | .idle => none
  | .acquire tx =>
    if g.routeWriter then some g
    else some { g with routeWriter := true, writers := Function.update g.writers w (.loadActive tx) }
  | .loadActive tx => (g.core.beginStep tx).map fun core =>
    { g with core := core, writers := Function.update g.writers w (.inside tx) }
  | .inside tx => (g.core.writeStep (routePublication F)).map fun core =>
    { g with
      core := core
      writers := Function.update g.writers w
        (if core.writer.transaction.isSome then .inside tx else .clear tx) }
  | .clear tx =>
    some { g with
      routeWriter := false
      writers := Function.update g.writers w .idle
      completed := g.completed ++ [tx] }

def step (g : AudioGraph F ω ρ) : RouteAction F ω ρ → Option (AudioGraph F ω ρ)
  | .applyRouteTransaction w changes =>
    match g.writers w with
    | .idle =>
      -- a transaction with a change that is out of range has no effect
      if h : changes.all AudioRouteChange.valid = true then
        some { g with writers := Function.update g.writers w (.acquire ⟨changes, h⟩) }
      else some g
    | _ => none
  | .writer w => g.writerStep w
  | .reader action => (g.core.readerStep action).map fun core => { g with core := core }

/-- What the writer that has set the flag stands for. -/
def Stands (g : AudioGraph F ω ρ) : RouteWriter F → Prop
  | .idle | .acquire _ => False
  | .loadActive _ => g.core.writer = .idle ∧ g.core.published = g.completed
  | .inside tx => g.core.writer.transaction = some tx ∧ g.core.published = g.completed
  | .clear tx => g.core.writer = .idle ∧ g.core.published = g.completed ++ [tx]

structure Inv [Fintype ρ] (g : AudioGraph F ω ρ) : Prop where
  core : g.core.Inv (routePublication F) (silentRoutes F)
  free : g.routeWriter = false →
    g.core.writer = .idle ∧ g.core.published = g.completed ∧ ∀ w, ¬(g.writers w).Holds
  held : g.routeWriter = true → ∃ w, g.Stands (g.writers w) ∧ ∀ w', (g.writers w').Holds → w' = w

variable [Fintype ρ] {g g' : AudioGraph F ω ρ} {w : ω}

omit [DecidableEq ω] [DecidableEq ρ] in
lemma inv_start : (start : AudioGraph F ω ρ).Inv where
  core := Core.inv_start _ _
  free _ := ⟨rfl, rfl, fun _ h => h⟩
  held h := by cases h

omit [DecidableEq ω] [DecidableEq ρ] in
lemma Inv.stands (h : g.Inv) (hholds : (g.writers w).Holds) :
    g.routeWriter = true ∧ g.Stands (g.writers w) ∧ ∀ w', (g.writers w').Holds → w' = w := by
  cases hflag : g.routeWriter with
  | false => exact absurd hholds ((h.free hflag).2.2 w)
  | true =>
    obtain ⟨holder, hstands, honly⟩ := h.held hflag
    obtain rfl := honly w hholds
    exact ⟨rfl, hstands, honly⟩

omit [DecidableEq ρ] [Fintype ρ] in
lemma stands_update {writers : ω → RouteWriter F} {next : RouteWriter F}
    (hwriters : g'.writers = Function.update writers w next) (h : g'.Stands next) :
    g'.Stands (g'.writers w) := by
  rw [hwriters, Function.update_self]
  exact h

lemma held_update {writers : ω → RouteWriter F} {next : RouteWriter F}
    (honly : ∀ w', (writers w').Holds → w' = w) :
    ∀ w', (Function.update writers w next w').Holds → w' = w := by
  intro w' hw'
  by_contra hne
  rw [Function.update_of_ne hne] at hw'
  exact hne (honly w' hw')

omit [DecidableEq ρ] in
lemma Inv.writer (h : g.Inv) (hstep : g.writerStep w = some g') : g'.Inv := by
  unfold writerStep at hstep
  cases hat : g.writers w with
  | idle =>
    rw [hat] at hstep
    cases hstep
  | acquire tx =>
    rw [hat] at hstep
    dsimp only at hstep
    split at hstep
    · cases hstep
      exact h
    · next hflag =>
        cases hstep
        obtain ⟨hidle, hpublished, hnobody⟩ := h.free (Bool.eq_false_iff.mpr hflag)
        exact {
          core := h.core
          free := fun hfalse => by cases hfalse
          held := fun _ => ⟨w, stands_update rfl ⟨hidle, hpublished⟩,
            held_update fun w' hw' => absurd hw' (hnobody w')⟩ }
  | loadActive tx =>
    rw [hat] at hstep
    obtain ⟨core, hcore, rfl⟩ := Option.map_eq_some_iff.mp hstep
    obtain ⟨hflag, hstands, honly⟩ := h.stands (w := w) (by rw [hat]; trivial)
    rw [hat] at hstands
    obtain ⟨hwriter, hpublished⟩ := Core.beginStep_writer hcore
    refine ⟨h.core.begin hcore, fun hfalse => ?_, fun _ => ⟨w, ?_, held_update honly⟩⟩
    · exact absurd (hflag.symm.trans hfalse) (by decide)
    · exact stands_update rfl ⟨hwriter, hpublished.trans hstands.2⟩
  | inside tx =>
    rw [hat] at hstep
    obtain ⟨core, hcore, rfl⟩ := Option.map_eq_some_iff.mp hstep
    obtain ⟨hflag, hstands, honly⟩ := h.stands (w := w) (by rw [hat]; trivial)
    rw [hat] at hstands
    refine ⟨h.core.write hcore, fun hfalse => ?_, fun _ => ⟨w, ?_, held_update honly⟩⟩
    · exact absurd (hflag.symm.trans hfalse) (by decide)
    · refine stands_update rfl ?_
      rcases Core.writeStep_writer hstands.1 hcore with ⟨hwriter, hpublished⟩ | ⟨hwriter, hpublished⟩
      · rw [hwriter]
        exact ⟨hwriter, hpublished.trans hstands.2⟩
      · rw [hwriter]
        exact ⟨hwriter, hpublished.trans (congrArg (· ++ [tx]) hstands.2)⟩
  | clear tx =>
    rw [hat] at hstep
    cases hstep
    obtain ⟨-, hstands, honly⟩ := h.stands (w := w) (by rw [hat]; trivial)
    rw [hat] at hstands
    refine ⟨h.core, fun _ => ⟨hstands.1, hstands.2, fun w' hw' => ?_⟩, fun htrue => by cases htrue⟩
    change (Function.update g.writers w .idle w').Holds at hw'
    obtain rfl := held_update honly w' hw'
    rw [Function.update_self] at hw'
    exact hw'

/-- **Every step keeps the invariant.** -/
theorem inv_step (h : g.Inv) {action : RouteAction F ω ρ} (hstep : g.step action = some g') : g'.Inv := by
  cases action with
  | writer w => exact h.writer hstep
  | applyRouteTransaction w changes =>
    unfold step at hstep
    dsimp only at hstep
    split at hstep
    · next hidle =>
        split at hstep
        · next hvalid =>
          cases hstep
          have hsame {w' : ω}
              (hholds : (Function.update g.writers w (.acquire ⟨changes, hvalid⟩) w').Holds) :
              w' ≠ w ∧ (g.writers w').Holds := by
            by_cases heq : w' = w
            · subst heq
              rw [Function.update_self] at hholds
              exact hholds.elim
            · rw [Function.update_of_ne heq] at hholds
              exact ⟨heq, hholds⟩
          refine ⟨h.core, fun hfalse => ?_, fun htrue => ?_⟩
          · obtain ⟨hwriter, hpublished, hnobody⟩ := h.free hfalse
            exact ⟨hwriter, hpublished, fun w' hw' => hnobody w' (hsame hw').2⟩
          · obtain ⟨holder, hstands, honly⟩ := h.held htrue
            have hne : holder ≠ w := by
              rintro rfl
              rw [hidle] at hstands
              exact hstands
            refine ⟨holder, ?_, fun w' hw' => honly w' (hsame hw').2⟩
            change Stands _ (Function.update g.writers w _ holder)
            rw [Function.update_of_ne hne]
            exact hstands
        · cases hstep
          exact h
    · cases hstep
  | reader action =>
    obtain ⟨core, hcore, rfl⟩ := Option.map_eq_some_iff.mp hstep
    obtain ⟨hwriter, hpublished⟩ := Core.readerStep_writer hcore
    refine ⟨h.core.readerStep hcore, fun hfalse => ?_, fun htrue => ?_⟩
    · obtain ⟨hidle, hlog, hnobody⟩ := h.free hfalse
      exact ⟨hwriter.trans hidle, hpublished.trans hlog, hnobody⟩
    · obtain ⟨holder, hstands, honly⟩ := h.held htrue
      refine ⟨holder, ?_, honly⟩
      cases hat : g.writers holder with
      | idle =>
        rw [hat] at hstands
        exact hstands
      | acquire tx =>
        rw [hat] at hstands
        exact hstands
      | loadActive tx =>
        rw [hat] at hstands
        exact ⟨hwriter.trans hstands.1, hpublished.trans hstands.2⟩
      | inside tx =>
        rw [hat] at hstands
        exact ⟨(congrArg Writer.transaction hwriter).trans hstands.1, hpublished.trans hstands.2⟩
      | clear tx =>
        rw [hat] at hstands
        exact ⟨hwriter.trans hstands.1, hpublished.trans hstands.2⟩

omit [DecidableEq ω] [DecidableEq ρ] in
lemma Inv.completed (h : g.Inv) :
    ∃ last, g.core.published = g.completed ++ last ∧ last.length ≤ 1 := by
  cases hflag : g.routeWriter with
  | false => exact ⟨[], by rw [(h.free hflag).2.1, List.append_nil], Nat.zero_le 1⟩
  | true =>
    obtain ⟨holder, hstands, -⟩ := h.held hflag
    cases hat : g.writers holder with
    | idle =>
      rw [hat] at hstands
      exact hstands.elim
    | acquire tx =>
      rw [hat] at hstands
      exact hstands.elim
    | loadActive tx =>
      rw [hat] at hstands
      exact ⟨[], by rw [hstands.2, List.append_nil], Nat.zero_le 1⟩
    | inside tx =>
      rw [hat] at hstands
      exact ⟨[], by rw [hstands.2, List.append_nil], Nat.zero_le 1⟩
    | clear tx =>
      rw [hat] at hstands
      exact ⟨[tx], hstands.2, le_refl 1⟩

end AudioGraph

end

/-! ## The versions of the show -/

structure CoreRuntimeRole where
  id : UInt64
  capabilityMask : UInt32

structure CoreRuntimeCue where
  id : UInt64
  nameHash : UInt64

/-- A version of the show; the counts are the lengths of the lists. -/
structure CoreRuntimeShowSnapshot (S : NativeFloats) where
  generation : ℕ := 0
  sourceRevision : UInt64 := 0
  contentHash : UInt64 := 0
  activatedShowNs : UInt64 := 0
  roles : List CoreRuntimeRole := []
  cues : List CoreRuntimeCue := []
  routes : List CoreRuntimeRoute := []
  parameters : List (CoreParameterDescriptor S) := []

def maxRuntimeRoles : ℕ := 64

def maxRuntimeCues : ℕ := 128

def maxRuntimeRoutes : ℕ := 128

def maxRuntimeParameters : ℕ := 256

/-- The cells of a version that are copied one by one. -/
inductive ShowCell
  | generation
  | sourceRevision
  | contentHash
  | activatedShowNs
  | roleCount
  | cueCount
  | routeCount
  | parameterCount
  | role (i : Fin maxRuntimeRoles)
  | cue (i : Fin maxRuntimeCues)
  | route (i : Fin maxRuntimeRoutes)
  | parameter (i : Fin maxRuntimeParameters)
  deriving DecidableEq

inductive ShowValue (S : NativeFloats)
  | count (n : ℕ)
  | number (n : UInt64)
  | role (v : Option CoreRuntimeRole)
  | cue (v : Option CoreRuntimeCue)
  | route (v : Option CoreRuntimeRoute)
  | parameter (v : Option (CoreParameterDescriptor S))

section

variable {S : NativeFloats} {ρ : Type}

def CoreRuntimeShowSnapshot.cell (v : CoreRuntimeShowSnapshot S) : ShowCell → ShowValue S
  | .generation => .count v.generation
  | .sourceRevision => .number v.sourceRevision
  | .contentHash => .number v.contentHash
  | .activatedShowNs => .number v.activatedShowNs
  | .roleCount => .count v.roles.length
  | .cueCount => .count v.cues.length
  | .routeCount => .count v.routes.length
  | .parameterCount => .count v.parameters.length
  | .role i => .role v.roles[i.val]?
  | .cue i => .cue v.cues[i.val]?
  | .route i => .route v.routes[i.val]?
  | .parameter i => .parameter v.parameters[i.val]?

def showCells : List ShowCell :=
  [.generation, .sourceRevision, .contentHash, .activatedShowNs, .roleCount, .cueCount, .routeCount,
    .parameterCount] ++
  (List.finRange maxRuntimeRoles).map .role ++ (List.finRange maxRuntimeCues).map .cue ++
  (List.finRange maxRuntimeRoutes).map .route ++ (List.finRange maxRuntimeParameters).map .parameter

lemma mem_showCells (cell : ShowCell) : cell ∈ showCells := by
  cases cell <;> simp [showCells, List.mem_finRange]

def showPublication (S : NativeFloats) : Publication ShowCell (ShowValue S) (CoreRuntimeShowSnapshot S) :=
  Publication.replace showCells mem_showCells CoreRuntimeShowSnapshot.cell

inductive ShowPublisher
  | idle
  | activating
  | clearPending
  | countSwap
  deriving DecidableEq

structure CoreRuntimeShow (S : NativeFloats) (ρ : Type) where
  core : Core ShowCell (ShowValue S) (CoreRuntimeShowSnapshot S) ρ
  staging : CoreRuntimeShowSnapshot S := {}
  pending : CoreRuntimeShowSnapshot S := {}
  stagingOpen : Bool := false
  pendingBoundary : UInt64 := 0
  pendingReady : Bool := false
  nextGeneration : ℕ := 1
  swaps : ℕ := 0
  rejected : ℕ := 0
  publisher : ShowPublisher := .idle

inductive RuntimeShowAction (S : NativeFloats) (ρ : Type)
  | begin (sourceRevision contentHash : UInt64)
  | addRole (v : CoreRuntimeRole)
  | addCue (v : CoreRuntimeCue)
  | addRoute (v : CoreRuntimeRoute)
  | addParameter (v : CoreParameterDescriptor S)
  | queuePublish (boundaryShowNs : UInt64)
  | activateIfDue (showNs : UInt64)
  /-- The next step of an activation. -/
  | publisher
  | reader (action : ReaderAction ShowCell ρ)

namespace CoreRuntimeShow

def start : CoreRuntimeShow S ρ := { core := Core.start (CoreRuntimeShowSnapshot.cell {}) }

def begin (s : CoreRuntimeShow S ρ) (sourceRevision contentHash : UInt64) : CoreRuntimeShow S ρ :=
  { s with
    staging := { sourceRevision := sourceRevision, contentHash := contentHash }
    stagingOpen := true }

/-- A member that is staged, unless nothing is being staged or the member is refused. -/
def add (s : CoreRuntimeShow S ρ) (refused : Bool) (staging : CoreRuntimeShowSnapshot S) : CoreRuntimeShow S ρ :=
  if s.stagingOpen = false || refused then s else { s with staging := staging }

def addRole (s : CoreRuntimeShow S ρ) (v : CoreRuntimeRole) : CoreRuntimeShow S ρ :=
  s.add (v.id = 0 || s.staging.roles.length ≥ maxRuntimeRoles)
    { s.staging with roles := s.staging.roles ++ [v] }

def addCue (s : CoreRuntimeShow S ρ) (v : CoreRuntimeCue) : CoreRuntimeShow S ρ :=
  s.add (v.id = 0 || s.staging.cues.length ≥ maxRuntimeCues)
    { s.staging with cues := s.staging.cues ++ [v] }

def addRoute (s : CoreRuntimeShow S ρ) (v : CoreRuntimeRoute) : CoreRuntimeShow S ρ :=
  s.add (v.fromId = 0 || v.toId = 0 || s.staging.routes.length ≥ maxRuntimeRoutes)
    { s.staging with routes := s.staging.routes ++ [v] }

def addParameter (s : CoreRuntimeShow S ρ) (v : CoreParameterDescriptor S) : CoreRuntimeShow S ρ :=
  s.add (v.targetId = 0 || v.parameterId = 0 || s.staging.parameters.length ≥ maxRuntimeParameters)
    { s.staging with parameters := s.staging.parameters ++ [v] }

/-- `queue_publish`: none of what it writes is read by a snapshot. -/
def queuePublish (s : CoreRuntimeShow S ρ) (boundaryShowNs : UInt64) : CoreRuntimeShow S ρ :=
  if s.stagingOpen = false || s.pendingReady then { s with rejected := s.rejected + 1 }
  else
    { s with
      stagingOpen := false
      staging := { s.staging with generation := s.nextGeneration }
      nextGeneration := s.nextGeneration + 1
      pending := { s.staging with generation := s.nextGeneration }
      pendingBoundary := boundaryShowNs
      pendingReady := true }

/-- `activate_if_due`, until it has loaded the active slot. -/
def activateIfDue (s : CoreRuntimeShow S ρ) (showNs : UInt64) : Option (CoreRuntimeShow S ρ) :=
  if s.pendingReady = false || showNs < s.pendingBoundary then some s
  else
    let pending := { s.pending with activatedShowNs := showNs }
    (s.core.beginStep pending).map fun core =>
      { s with core := core, pending := pending, publisher := .activating }

variable [DecidableEq ρ]

def publisherStep (s : CoreRuntimeShow S ρ) : Option (CoreRuntimeShow S ρ) := match s.publisher with
  | .idle => none
  | .activating => (s.core.writeStep (showPublication S)).map fun core =>
    { s with
      core := core
      publisher := if core.writer.transaction.isSome then .activating else .clearPending }
  | .clearPending => some { s with pendingReady := false, publisher := .countSwap }
  | .countSwap => some { s with swaps := s.swaps + 1, publisher := .idle }

def step (s : CoreRuntimeShow S ρ) : RuntimeShowAction S ρ → Option (CoreRuntimeShow S ρ)
  | .publisher => s.publisherStep
  | .reader action => (s.core.readerStep action).map fun core => { s with core := core }
  | .begin sourceRevision contentHash =>
    if s.publisher = .idle then some (s.begin sourceRevision contentHash) else none
  | .addRole v => if s.publisher = .idle then some (s.addRole v) else none
  | .addCue v => if s.publisher = .idle then some (s.addCue v) else none
  | .addRoute v => if s.publisher = .idle then some (s.addRoute v) else none
  | .addParameter v => if s.publisher = .idle then some (s.addParameter v) else none
  | .queuePublish boundaryShowNs =>
    if s.publisher = .idle then some (s.queuePublish boundaryShowNs) else none
  | .activateIfDue showNs => if s.publisher = .idle then s.activateIfDue showNs else none

def Stands (s : CoreRuntimeShow S ρ) : ShowPublisher → Prop
  | .activating => s.core.writer.transaction = some s.pending ∧ s.pendingReady = true
  | .clearPending => s.core.writer = .idle
  | .idle => s.core.writer = .idle
  | .countSwap => s.core.writer = .idle ∧ s.pendingReady = false

structure Inv [Fintype ρ] (s : CoreRuntimeShow S ρ) : Prop where
  core : s.core.Inv (showPublication S) (CoreRuntimeShowSnapshot.cell {})
  stands : s.Stands s.publisher
  increasing : (0 :: s.core.published.map CoreRuntimeShowSnapshot.generation).Pairwise (· < ·)
  below : ∀ n ∈ 0 :: s.core.published.map CoreRuntimeShowSnapshot.generation, n < s.nextGeneration
  fresh : s.pendingReady = true → s.publisher ≠ .clearPending →
    s.pending.generation < s.nextGeneration ∧
      ∀ n ∈ 0 :: s.core.published.map CoreRuntimeShowSnapshot.generation, n < s.pending.generation

variable [Fintype ρ] {s s' : CoreRuntimeShow S ρ}

omit [DecidableEq ρ] in
lemma inv_start : (start : CoreRuntimeShow S ρ).Inv where
  core := Core.inv_start _ _
  stands := rfl
  increasing := List.pairwise_singleton _ _
  below n hn := by
    rw [List.mem_singleton.mp hn]
    exact Nat.zero_lt_one
  fresh h := by cases h

omit [DecidableEq ρ] in
lemma Inv.stage (h : s.Inv) (staging : CoreRuntimeShowSnapshot S) (stagingOpen : Bool) (rejected : ℕ) :
    ({ s with staging := staging, stagingOpen := stagingOpen, rejected := rejected } :
      CoreRuntimeShow S ρ).Inv :=
  ⟨h.core, h.stands, h.increasing, h.below, h.fresh⟩

omit [DecidableEq ρ] in
lemma Inv.add (h : s.Inv) (refused : Bool) (staging : CoreRuntimeShowSnapshot S) :
    (s.add refused staging).Inv := by
  unfold CoreRuntimeShow.add
  split
  · exact h
  · exact h.stage staging s.stagingOpen s.rejected

omit [DecidableEq ρ] in
lemma Inv.writer_idle (h : s.Inv) (hidle : s.publisher = .idle) : s.core.writer = .idle := by
  have hstands := h.stands
  rw [hidle] at hstands
  exact hstands

omit [DecidableEq ρ] in
lemma Inv.queuePublish (h : s.Inv) (hidle : s.publisher = .idle) (boundaryShowNs : UInt64) :
    (s.queuePublish boundaryShowNs).Inv := by
  unfold CoreRuntimeShow.queuePublish
  split
  · exact h.stage s.staging s.stagingOpen (s.rejected + 1)
  · refine ⟨h.core, ?_, h.increasing, fun n hn => Nat.lt_succ_of_lt (h.below n hn), fun _ _ => ?_⟩
    · rw [hidle]
      exact h.writer_idle hidle
    · exact ⟨Nat.lt_succ_self _, h.below⟩

omit [DecidableEq ρ] in
lemma Inv.activateIfDue (h : s.Inv) (hidle : s.publisher = .idle) {showNs : UInt64}
    (hstep : s.activateIfDue showNs = some s') : s'.Inv := by
  unfold CoreRuntimeShow.activateIfDue at hstep
  split at hstep
  · cases hstep
    exact h
  · next hdue =>
      obtain ⟨core, hcore, rfl⟩ := Option.map_eq_some_iff.mp hstep
      obtain ⟨hwriter, hpublished⟩ := Core.beginStep_writer hcore
      have hready : s.pendingReady = true := by
        cases hready : s.pendingReady with
        | true => rfl
        | false => simp [hready] at hdue
      have hfresh := h.fresh hready (by rw [hidle]; decide)
      have hincreasing := h.increasing
      have hbelow := h.below
      rw [← hpublished] at hfresh hincreasing hbelow
      exact ⟨h.core.begin hcore, ⟨hwriter, hready⟩, hincreasing, hbelow, fun _ _ => hfresh⟩

omit [DecidableEq ρ] in
lemma Inv.publisherStep (h : s.Inv) (hstep : s.publisherStep = some s') : s'.Inv := by
  unfold CoreRuntimeShow.publisherStep at hstep
  have hstands := h.stands
  cases hat : s.publisher with
  | idle =>
    rw [hat] at hstep
    cases hstep
  | activating =>
    rw [hat] at hstep hstands
    obtain ⟨hwriter, hready⟩ := hstands
    have hfresh := h.fresh hready (by rw [hat]; decide)
    obtain ⟨core, hcore, rfl⟩ := Option.map_eq_some_iff.mp hstep
    rcases Core.writeStep_writer hwriter hcore with ⟨hafter, hpublished⟩ | ⟨hafter, hpublished⟩
    · have hincreasing := h.increasing
      have hbelow := h.below
      rw [← hpublished] at hfresh hincreasing hbelow
      refine ⟨h.core.write hcore, ?_, hincreasing, hbelow, fun _ _ => hfresh⟩
      rw [hafter]
      exact ⟨hafter, hready⟩
    · have hpublisher : (if core.writer.transaction.isSome then ShowPublisher.activating
          else .clearPending) = .clearPending := by
        rw [hafter]
        rfl
      have hmap : 0 :: core.published.map CoreRuntimeShowSnapshot.generation =
          (0 :: s.core.published.map CoreRuntimeShowSnapshot.generation) ++ [s.pending.generation] := by
        rw [hpublished, List.map_append]
        rfl
      refine ⟨h.core.write hcore, ?_, ?_, ?_, fun _ hne => absurd hpublisher hne⟩
      · rw [hpublisher]
        exact hafter
      · rw [hmap]
        refine List.pairwise_append.mpr ⟨h.increasing, List.pairwise_singleton _ _, fun n hn m hm => ?_⟩
        rw [List.mem_singleton.mp hm]
        exact hfresh.2 n hn
      · intro n hn
        rw [hmap] at hn
        rcases List.mem_append.mp hn with hold | hnew
        · exact h.below n hold
        · rw [List.mem_singleton.mp hnew]
          exact hfresh.1
  | clearPending =>
    rw [hat] at hstep hstands
    cases hstep
    exact ⟨h.core, ⟨hstands, rfl⟩, h.increasing, h.below, fun hready => by cases hready⟩
  | countSwap =>
    rw [hat] at hstep hstands
    cases hstep
    refine ⟨h.core, hstands.1, h.increasing, h.below, fun hready => ?_⟩
    exact absurd (hready.symm.trans hstands.2) (by decide)

/-- **Every step keeps the invariant.** -/
theorem inv_step (h : s.Inv) {action : RuntimeShowAction S ρ} (hstep : s.step action = some s') : s'.Inv := by
  have hstaged {t : CoreRuntimeShow S ρ} (hif : (if s.publisher = .idle then some t else none) = some s')
      (ht : s.publisher = .idle → t.Inv) : s'.Inv := by
    split at hif
    · next hidle =>
        cases hif
        exact ht hidle
    · cases hif
  cases action with
  | begin sourceRevision contentHash => exact hstaged hstep fun _ => h.stage _ true s.rejected
  | addRole v => exact hstaged hstep fun _ => h.add _ _
  | addCue v => exact hstaged hstep fun _ => h.add _ _
  | addRoute v => exact hstaged hstep fun _ => h.add _ _
  | addParameter v => exact hstaged hstep fun _ => h.add _ _
  | queuePublish boundaryShowNs => exact hstaged hstep fun hidle => h.queuePublish hidle boundaryShowNs
  | publisher => exact h.publisherStep hstep
  | activateIfDue showNs =>
    unfold step at hstep
    dsimp only at hstep
    split at hstep
    · next hidle => exact h.activateIfDue hidle hstep
    · cases hstep
  | reader action =>
    obtain ⟨core, hcore, rfl⟩ := Option.map_eq_some_iff.mp hstep
    obtain ⟨hwriter, hpublished⟩ := Core.readerStep_writer hcore
    have hincreasing := h.increasing
    have hbelow := h.below
    have hfresh := h.fresh
    rw [← hpublished] at hfresh hincreasing hbelow
    refine ⟨h.core.readerStep hcore, ?_, hincreasing, hbelow, hfresh⟩
    have hstands := h.stands
    cases hat : s.publisher with
    | activating =>
      rw [hat] at hstands
      exact ⟨(congrArg Writer.transaction hwriter).trans hstands.1, hstands.2⟩
    | countSwap =>
      rw [hat] at hstands
      exact ⟨hwriter.trans hstands.1, hstands.2⟩
    | _ =>
      rw [hat] at hstands
      exact hwriter.trans hstands

end CoreRuntimeShow

end

/-! ## Runs -/

section

variable {F : FloatType} {S : NativeFloats} {ω ρ : Type} [DecidableEq ω] [Fintype ρ] [DecidableEq ρ]
  {g : AudioGraph F ω ρ} {s : CoreRuntimeShow S ρ} {routeActions : List (RouteAction F ω ρ)}
  {showActions : List (RuntimeShowAction S ρ)}

lemma tableAfter_concat (log : List (RouteTransaction F)) (tx : RouteTransaction F) :
    (routePublication F).tableAfter (silentRoutes F) (log ++ [tx]) = applyWrites tx.writes
        ((routePublication F).tableAfter (silentRoutes F) log) := by
  rw [Publication.tableAfter, List.foldl_append]
  rfl

/-- **Tables and versions are not torn.** A reader that has pinned the table of routes sees the one it was
constructed with or one that was published, and nothing else until it lets go; each table is the one before
with the changes of its transaction, and no transaction that has returned is lost. A snapshot sees the empty
version or one that was published, under generations that increase. -/
theorem publications_not_torn (hg : Reaches AudioGraph.step Always AudioGraph.start routeActions g)
    (hs : Reaches CoreRuntimeShow.step Always CoreRuntimeShow.start showActions s) :
    (∀ r slot table reads, g.core.threads r = .pinned slot table reads →
      g.core.slots slot = table ∧ (∀ e ∈ reads, e.2 = table e.1) ∧
        (routePublication F).IsPublished (silentRoutes F) g.core.published table) ∧
    (∀ tx ∈ g.core.published, tx.writes.map some = tx.changes.map AudioRouteChange.write) ∧
    (∀ log tx, (routePublication F).tableAfter (silentRoutes F) (log ++ [tx]) =
      applyWrites tx.writes ((routePublication F).tableAfter (silentRoutes F) log)) ∧
    g.core.slots g.core.active = (routePublication F).tableAfter (silentRoutes F) g.core.published ∧
    (∃ last, g.core.published = g.completed ++ last ∧ last.length ≤ 1) ∧
    (∀ r slot table reads, s.core.threads r = .pinned slot table reads →
      s.core.slots slot = table ∧ (∀ e ∈ reads, e.2 = table e.1) ∧
        (table = CoreRuntimeShowSnapshot.cell {} ∨ ∃ v ∈ s.core.published, table = v.cell)) ∧
    (0 :: s.core.published.map CoreRuntimeShowSnapshot.generation).Pairwise (· < ·) := by
  have hroutes : g.Inv := hg.invariant AudioGraph.inv_start fun _ _ _ hi _ hstep => AudioGraph.inv_step hi hstep
  have hshow : s.Inv :=
    hs.invariant CoreRuntimeShow.inv_start fun _ _ _ hi _ hstep => CoreRuntimeShow.inv_step hi hstep
  refine ⟨fun r slot table reads hr => ?_, fun tx _ => tx.writes_map, tableAfter_concat, hroutes.core.current, hroutes.completed,
    fun r slot table reads hr => ?_, hshow.increasing⟩
  · obtain ⟨hslot, hpublished, hreads⟩ := hroutes.core.pinned r slot table reads hr
    exact ⟨hslot, hreads, hpublished⟩
  · obtain ⟨hslot, hpublished, hreads⟩ := hshow.core.pinned r slot table reads hr
    exact ⟨hslot, hreads, tableAfter_replace hpublished⟩

/-- The cell of the first source and the first output. -/
def firstRoute : RouteCell := (⟨0, by decide⟩, ⟨0, by decide⟩)

/-- A transaction is under way when a thread pins the table and reads a cell. -/
def pinnedMeanwhile : List (RouteAction NativeFloats.rationals.single Unit Unit) :=
  [.applyRouteTransaction () [⟨1, 2, (1 / 2 : ℚ)⟩], .writer (), .writer (), .writer (), .writer (),
    .reader (.pin ()), .reader (.pin ()), .reader (.pin ()), .reader (.read () firstRoute)]

/-- A version has been queued when a thread takes a snapshot. -/
def snapshotMeanwhile : List (RuntimeShowAction NativeFloats.rationals Unit) :=
  [.begin 7 8, .addCue ⟨9, 10⟩, .queuePublish 100, .activateIfDue 100, .publisher,
    .reader (.pin ()), .reader (.pin ()), .reader (.pin ()), .reader (.read () .roleCount)]

theorem publications_not_torn_meanwhile :
    ∃ (g : AudioGraph NativeFloats.rationals.single Unit Unit) (s : CoreRuntimeShow NativeFloats.rationals Unit),
      TransitionSystem.run AudioGraph.step AudioGraph.start pinnedMeanwhile = some g ∧
      TransitionSystem.run CoreRuntimeShow.step CoreRuntimeShow.start snapshotMeanwhile = some s ∧
      g.core.slots g.core.active = (routePublication _).tableAfter (silentRoutes _) g.core.published ∧
      (0 :: s.core.published.map CoreRuntimeShowSnapshot.generation).Pairwise (· < ·) := by
  obtain ⟨g, hg⟩ : ∃ g, TransitionSystem.run AudioGraph.step AudioGraph.start pinnedMeanwhile = some g :=
    ⟨_, rfl⟩
  obtain ⟨s, hs⟩ : ∃ s, TransitionSystem.run CoreRuntimeShow.step CoreRuntimeShow.start snapshotMeanwhile =
      some s := ⟨_, rfl⟩
  have h := publications_not_torn (reaches_always_of_run hg) (reaches_always_of_run hs)
  exact ⟨g, s, hg, hs, h.2.2.2.1, h.2.2.2.2.2.2⟩

theorem first_table_not_published :
    ¬∀ (routeActions : List (RouteAction NativeFloats.rationals.single Unit Unit))
        (g : AudioGraph NativeFloats.rationals.single Unit Unit),
      Reaches AudioGraph.step Always AudioGraph.start routeActions g →
      ∀ r slot table reads, g.core.threads r = .pinned slot table reads →
        ∃ log tx, log ++ [tx] <+: g.core.published ∧
          table = (routePublication _).tableAfter (silentRoutes _) (log ++ [tx]) := by
  intro hall
  have hpinned := hall [.reader (.pin ()), .reader (.pin ()), .reader (.pin ())] _
    (reaches_always_of_run rfl) () false _ [] rfl
  obtain ⟨log, tx, hprefix, -⟩ := hpinned
  have hnil := List.prefix_nil.mp hprefix
  simp at hnil

end

end StageForge
