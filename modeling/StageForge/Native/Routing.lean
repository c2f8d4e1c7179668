import Mathlib.Data.UInt
import StageForge.Library.Acyclic
import StageForge.Library.TransitionSystem

/-!
# The routing transaction

`CoreRoutingState` keeps an active table of routes and, while a transaction is open, a staged one. A
commit replaces the active table after `validate` has searched the graph of the enabled staged routes
for a cycle: it takes away, in as many passes as there are nodes, each node whose indegree has come down
to zero.
-/

namespace StageForge

open TransitionSystem

structure CoreRuntimeRoute where
  fromId : UInt64
  toId : UInt64
  channels : UInt16
  timingClass : UInt8
  enabled : Bool
  deriving DecidableEq

structure CoreRoutingState where
  active : List CoreRuntimeRoute
  staged : List CoreRuntimeRoute
  isOpen : Bool
  revision : UInt64
  commits : UInt64
  conflicts : UInt64
  deriving DecidableEq

/-- A node of the search, with its indegree among the nodes that are left. -/
structure RouteNode where
  id : UInt64
  indegree : UInt16
  removed : Bool
  deriving DecidableEq

/-- The local variables of `validate`. -/
structure RouteSearch where
  nodes : List RouteNode
  removedCount : ℕ
  progress : Bool

namespace CoreRoutingState

def initial : CoreRoutingState := ⟨[], [], false, 0, 0, 0⟩

def begin (s : CoreRoutingState) (expectedRevision : UInt64) : CoreRoutingState × Bool :=
  if s.isOpen = true ∨ expectedRevision ≠ s.revision then
    ({ s with conflicts := s.conflicts + 1 }, false)
  else ({ s with staged := s.active, isOpen := true }, true)

/-- The first loop of `set`: the staged route with the same ends is replaced. -/
def replace (route : CoreRuntimeRoute) : List CoreRuntimeRoute → Option (List CoreRuntimeRoute)
  | [] => none
  | first :: rest =>
    if first.fromId = route.fromId ∧ first.toId = route.toId then some (route :: rest)
    else (replace route rest).map (first :: ·)

def set (capacity : ℕ) (s : CoreRoutingState) (route : CoreRuntimeRoute) :
    CoreRoutingState × Bool :=
  if s.isOpen = false ∨ route.fromId = 0 ∨ route.toId = 0 ∨ route.fromId = route.toId then (s, false)
  else match replace route s.staged with
    | some staged => ({ s with staged }, true)
    | none =>
      if capacity ≤ s.staged.length then (s, false)
      else ({ s with staged := s.staged ++ [route] }, true)

/-! ## The search -/

/-- `add`, on arrays of `size` elements. -/
def addNode (size : ℕ) (ids : List UInt64) (id : UInt64) : List UInt64 :=
  if id ∈ ids then ids else if ids.length < size then ids ++ [id] else ids

def addEnds (size : ℕ) (ids : List UInt64) (route : CoreRuntimeRoute) : List UInt64 :=
  if route.enabled = true then addNode size (addNode size ids route.fromId) route.toId else ids

def nodeIds (size : ℕ) (routes : List CoreRuntimeRoute) : List UInt64 :=
  routes.foldl (addEnds size) []

/-- What a route adds to the indegree of a node. -/
def raise (route : CoreRuntimeRoute) (node : RouteNode) : RouteNode :=
  if route.enabled = true ∧ node.id = route.toId then { node with indegree := node.indegree + 1 }
  else node

def countIndegrees (routes : List CoreRuntimeRoute) (nodes : List RouteNode) : List RouteNode :=
  routes.foldl (fun nodes route => nodes.map (raise route)) nodes

/-- What a route from a node that has been removed takes from the indegree of another. -/
def lower (source : UInt64) (route : CoreRuntimeRoute) (node : RouteNode) : RouteNode :=
  if route.enabled = true ∧ route.fromId = source ∧ node.removed = false ∧ node.id = route.toId ∧
      0 < node.indegree then { node with indegree := node.indegree - 1 }
  else node

def lowerIndegrees (routes : List CoreRuntimeRoute) (source : UInt64) (nodes : List RouteNode) :
    List RouteNode :=
  routes.foldl (fun nodes route => nodes.map (lower source route)) nodes

/-- The body of the inner loop, for the node at an index. -/
def visit (routes : List CoreRuntimeRoute) (search : RouteSearch) (index : ℕ) : RouteSearch :=
  match search.nodes[index]? with
  | none => search
  | some node =>
    if node.removed = true ∨ node.indegree ≠ 0 then search
    else
      { nodes := lowerIndegrees routes node.id
          (search.nodes.set index { node with removed := true })
        removedCount := search.removedCount + 1
        progress := true }

def pass (routes : List CoreRuntimeRoute) (search : RouteSearch) : RouteSearch :=
  (List.range search.nodes.length).foldl (visit routes) { search with progress := false }

/-- At most so many passes, up to the first one without progress. -/
def passes (routes : List CoreRuntimeRoute) : ℕ → RouteSearch → RouteSearch
  | 0, search => search
  | count + 1, search =>
    let after := pass routes search
    if after.progress = true then passes routes count after else after

def validate (capacity : ℕ) (s : CoreRoutingState) : Bool := if s.isOpen = false then false
  else
    let ids := nodeIds (capacity * 2) s.staged
    let nodes := countIndegrees s.staged (ids.map fun id => ⟨id, 0, false⟩)
    (passes s.staged ids.length ⟨nodes, 0, false⟩).removedCount = ids.length

def commit (capacity : ℕ) (s : CoreRoutingState) : CoreRoutingState × Bool :=
  if s.isOpen = false ∨ validate capacity s = false then (s, false)
  else
    ({ s with
        active := s.staged
        isOpen := false
        revision := s.revision + 1
        commits := s.commits + 1 }, true)

def rollback (s : CoreRoutingState) : CoreRoutingState := { s with isOpen := false }

/-! ## The nodes of the graph -/

def Edge (routes : List CoreRuntimeRoute) (source target : UInt64) : Prop :=
  ∃ route ∈ routes, route.enabled = true ∧ route.fromId = source ∧ route.toId = target

variable {size : ℕ} {routes : List CoreRuntimeRoute}

variable {ids : List UInt64}

lemma nodup_addNode (h : ids.Nodup) (id : UInt64) : (addNode size ids id).Nodup := by
  rw [addNode]
  split
  · exact h
  · rename_i hnew
    split
    · exact List.nodup_append.mpr ⟨h, List.nodup_singleton id, fun a ha b hb => by
        rw [List.mem_singleton.mp hb]
        exact fun heq => hnew (heq ▸ ha)⟩
    · exact h

lemma length_addNode (ids : List UInt64) (id : UInt64) :
    (addNode size ids id).length ≤ ids.length + 1 := by
  rw [addNode]
  split
  · omega
  · split
    · rw [List.length_append, List.length_singleton]
    · omega

lemma subset_addNode (ids : List UInt64) (id : UInt64) : ids ⊆ addNode size ids id := by
  rw [addNode]
  split
  · exact List.Subset.refl _
  · split
    · exact List.subset_append_left _ _
    · exact List.Subset.refl _

lemma mem_addNode (hroom : ids.length < size) (id : UInt64) : id ∈ addNode size ids id := by
  rw [addNode]
  split
  · assumption
  · exact List.mem_append_right _ (List.mem_singleton_self id)

/-- Two nodes for each route that has been looked at are room enough. -/
structure Collected (size : ℕ) (seen : List CoreRuntimeRoute) (ids : List UInt64) : Prop where
  nodup : ids.Nodup
  length : ids.length ≤ 2 * seen.length
  ends : ∀ route ∈ seen, route.enabled = true → route.fromId ∈ ids ∧ route.toId ∈ ids

lemma Collected.addEnds {seen : List CoreRuntimeRoute}
    (h : Collected size seen ids) (route : CoreRuntimeRoute)
    (hsize : 2 * (seen.length + 1) ≤ size) :
    Collected size (seen ++ [route]) (addEnds size ids route) := by
  have hlength := h.length
  have hseen : (seen ++ [route]).length = seen.length + 1 := by
    rw [List.length_append, List.length_singleton]
  rw [CoreRoutingState.addEnds]
  by_cases henabled : route.enabled = true
  · rw [if_pos henabled]
    have hone : (addNode size ids route.fromId).length ≤ ids.length + 1 :=
      length_addNode ids route.fromId
    have htwo : (addNode size (addNode size ids route.fromId) route.toId).length ≤
        (addNode size ids route.fromId).length + 1 := length_addNode _ route.toId
    have hsub : addNode size ids route.fromId ⊆
        addNode size (addNode size ids route.fromId) route.toId := subset_addNode _ route.toId
    refine ⟨nodup_addNode (nodup_addNode h.nodup _) _, by omega, ?_⟩
    intro other hother hon
    rcases List.mem_append.mp hother with hold | hnew
    · obtain ⟨hfrom, hto⟩ := h.ends other hold hon
      exact ⟨hsub (subset_addNode _ _ hfrom), hsub (subset_addNode _ _ hto)⟩
    · rw [List.mem_singleton.mp hnew]
      exact ⟨hsub (mem_addNode (by omega) _), mem_addNode (by omega) _⟩
  · rw [if_neg henabled]
    refine ⟨h.nodup, by omega, ?_⟩
    intro other hother hon
    rcases List.mem_append.mp hother with hold | hnew
    · exact h.ends other hold hon
    · rw [List.mem_singleton.mp hnew] at hon
      exact absurd hon henabled

lemma collected_foldl : ∀ (rest seen : List CoreRuntimeRoute) (ids : List UInt64),
    Collected size seen ids → 2 * (seen ++ rest).length ≤ size →
    Collected size (seen ++ rest) (rest.foldl (addEnds size) ids)
  | [], seen, ids, h, _ => by rw [List.append_nil]; exact h
  | route :: rest, seen, ids, h, hsize => by
    rw [List.append_cons] at hsize ⊢
    refine collected_foldl rest _ _ (h.addEnds route ?_) hsize
    rw [List.length_append, List.length_append, List.length_singleton] at hsize
    omega

theorem collected_nodeIds (hsize : 2 * routes.length ≤ size) :
    Collected size routes (nodeIds size routes) :=
  collected_foldl routes [] [] ⟨List.nodup_nil, Nat.le_refl 0, by simp⟩ hsize

/-! ## One step of the search -/

/-- The enabled routes to a node from the nodes that are left. -/
def incoming (routes : List CoreRuntimeRoute) (left : UInt64 → Bool) (id : UInt64) : ℕ :=
  routes.countP fun route => route.enabled && route.toId = id && left route.fromId

def left (nodes : List RouteNode) (id : UInt64) : Bool :=
  nodes.any fun node => node.id = id && !node.removed

/-- What the removal of a node does to each node. -/
def takeAway (routes : List CoreRuntimeRoute) (source : UInt64) (node : RouteNode) : RouteNode :=
  routes.foldl (fun node route => lower source route node)
    (if node.id = source then { node with removed := true } else node)

lemma foldl_map {α β : Type*} (f : α → β → β) : ∀ (as : List α) (bs : List β),
    as.foldl (fun bs a => bs.map (f a)) bs = bs.map fun b => as.foldl (fun b a => f a b) b
  | [], bs => by simp
  | a :: as, bs => by
    rw [List.foldl_cons, foldl_map f as, List.map_map]
    rfl

lemma set_eq_map {α β : Type*} [DecidableEq β] {key : α → β} {as : List α}
    (hnodup : (as.map key).Nodup) {index : ℕ} {a : α} (ha : as[index]? = some a) (f : α → α) :
    as.set index (f a) = as.map fun b => if key b = key a then f b else b := by
  obtain ⟨hindex, rfl⟩ := List.getElem?_eq_some_iff.mp ha
  refine List.ext_getElem (by simp) fun other hother _ => ?_
  rw [List.length_set] at hother
  rw [List.getElem_set, List.getElem_map]
  by_cases hsame : index = other
  · subst hsame
    rw [if_pos rfl, if_pos rfl]
  · rw [if_neg hsame, if_neg]
    intro hkey
    have hotherkey : other < (as.map key).length := by simpa using hother
    have hindexkey : index < (as.map key).length := by simpa using hindex
    have hkeys : (as.map key)[other] = (as.map key)[index] := by
      rw [List.getElem_map, List.getElem_map, hkey]
    exact hsame ((hnodup.getElem_inj_iff).mp hkeys).symm

lemma raise_fold : ∀ (routes : List CoreRuntimeRoute) (node : RouteNode),
    node.indegree.toNat + routes.length < 2 ^ 16 →
    let after := routes.foldl (fun node route => raise route node) node
    after.id = node.id ∧ after.removed = node.removed ∧
      after.indegree.toNat = node.indegree.toNat + incoming routes (fun _ => true) node.id
  | [], node, _ => ⟨rfl, rfl, rfl⟩
  | route :: routes, node, hroom => by
    rw [List.length_cons] at hroom
    rw [List.foldl_cons, incoming, List.countP_cons]
    by_cases hraise : route.enabled = true ∧ node.id = route.toId
    · have hnode : raise route node = { node with indegree := node.indegree + 1 } := if_pos hraise
      have hone : (node.indegree + 1).toNat = node.indegree.toNat + 1 := by
        rw [UInt16.toNat_add, UInt16.toNat_one]
        omega
      obtain ⟨hid, hremoved, hdegree⟩ := raise_fold routes (raise route node) (by
        rw [hnode]
        simp only [hone]
        omega)
      refine ⟨hid.trans (by rw [hnode]), hremoved.trans (by rw [hnode]), hdegree.trans ?_⟩
      rw [hnode]
      simp only [hone, incoming, hraise.1, hraise.2, Bool.and_true, decide_true, if_true]
      omega
    · have hnode : raise route node = node := if_neg hraise
      obtain ⟨hid, hremoved, hdegree⟩ := raise_fold routes (raise route node) (by
        rw [hnode]
        omega)
      refine ⟨hid.trans (by rw [hnode]), hremoved.trans (by rw [hnode]), hdegree.trans ?_⟩
      rw [hnode, if_neg, Nat.add_zero, incoming]
      intro hcounted
      simp only [Bool.and_true, Bool.and_eq_true, decide_eq_true_eq] at hcounted
      exact hraise ⟨hcounted.1, hcounted.2.symm⟩

lemma lower_fold (source : UInt64) : ∀ (routes : List CoreRuntimeRoute) (node : RouteNode),
    let after := routes.foldl (fun node route => lower source route node) node
    after.id = node.id ∧ after.removed = node.removed ∧
      (node.removed = false → after.indegree.toNat =
        node.indegree.toNat - incoming routes (fun id => id = source) node.id)
  | [], node => ⟨rfl, rfl, fun _ => rfl⟩
  | route :: routes, node => by
    obtain ⟨hid, hremoved, hdegree⟩ := lower_fold source routes (lower source route node)
    rw [List.foldl_cons, incoming, List.countP_cons]
    by_cases hlower : route.enabled = true ∧ route.fromId = source ∧ node.removed = false ∧
        node.id = route.toId ∧ 0 < node.indegree
    · have hnode : lower source route node = { node with indegree := node.indegree - 1 } :=
        if_pos hlower
      obtain ⟨henabled, hsource, hleft, htarget, hpositive⟩ := hlower
      rw [hnode] at hid hremoved hdegree
      refine ⟨by rw [hnode]; exact hid, by rw [hnode]; exact hremoved, fun _ => ?_⟩
      have hone : (node.indegree - 1).toNat = node.indegree.toNat - 1 := by
        rw [UInt16.toNat_sub_of_le _ _ (by
          rw [UInt16.le_iff_toNat_le, UInt16.toNat_one]
          exact UInt16.lt_iff_toNat_lt.mp hpositive), UInt16.toNat_one]
      rw [hnode, hdegree hleft]
      simp only [hone, incoming, henabled, hsource, htarget, Bool.and_true, decide_true, if_true]
      omega
    · have hnode : lower source route node = node := if_neg hlower
      rw [hnode] at hid hremoved hdegree
      refine ⟨by rw [hnode]; exact hid, by rw [hnode]; exact hremoved, fun hleft => ?_⟩
      rw [hnode, hdegree hleft, incoming]
      split
      · -- the route counts, but the indegree is zero already
        rename_i hcounted
        simp only [Bool.and_eq_true, decide_eq_true_eq] at hcounted
        have hzero : ¬ 0 < node.indegree := fun hpositive =>
          hlower ⟨hcounted.1.1, hcounted.2, hleft, hcounted.1.2.symm, hpositive⟩
        have hnat : node.indegree.toNat = 0 := by
          rw [UInt16.lt_iff_toNat_lt, UInt16.toNat_zero] at hzero
          omega
        omega
      · rfl

lemma takeAway_spec (routes : List CoreRuntimeRoute) (source : UInt64) (node : RouteNode) :
    (takeAway routes source node).id = node.id ∧
    ((takeAway routes source node).removed = true ↔ node.removed = true ∨ node.id = source) ∧
    ((takeAway routes source node).removed = false → (takeAway routes source node).indegree.toNat =
        node.indegree.toNat - incoming routes (fun id => id = source) node.id) := by
  rw [takeAway]
  by_cases hsame : node.id = source
  · rw [if_pos hsame]
    obtain ⟨hid, hremoved, hdegree⟩ := lower_fold source routes { node with removed := true }
    refine ⟨hid, ⟨fun _ => .inr hsame, fun _ => hremoved⟩, fun hleft => ?_⟩
    rw [hremoved] at hleft
    exact absurd hleft Bool.noConfusion
  · rw [if_neg hsame]
    obtain ⟨hid, hremoved, hdegree⟩ := lower_fold source routes node
    rw [hremoved]
    exact ⟨hid, ⟨.inl, fun h => h.resolve_right hsame⟩, hdegree⟩

variable {search : RouteSearch}

lemma visit_cases (routes : List CoreRuntimeRoute)
    (hnodup : (search.nodes.map RouteNode.id).Nodup) (index : ℕ) :
    (visit routes search index = search ∧
      ∀ node, search.nodes[index]? = some node → node.removed = true ∨ node.indegree ≠ 0) ∨
    ∃ node, search.nodes[index]? = some node ∧ node.removed = false ∧ node.indegree = 0 ∧
      visit routes search index =
        ⟨search.nodes.map (takeAway routes node.id), search.removedCount + 1, true⟩ := by
  rw [visit]
  cases hnode : search.nodes[index]? with
  | none => exact .inl ⟨rfl, fun _ h => absurd h (Option.some_ne_none _).symm⟩
  | some node =>
    simp only
    split
    · rename_i hpassed
      refine .inl ⟨rfl, fun other hother => ?_⟩
      rw [Option.some.injEq] at hother
      exact hother ▸ hpassed
    · rename_i hfree
      push Not at hfree
      refine .inr ⟨node, rfl, Bool.eq_false_of_not_eq_true hfree.1, hfree.2, ?_⟩
      rw [set_eq_map hnodup hnode fun node => { node with removed := true }, lowerIndegrees,
        foldl_map, List.map_map]
      rfl

/-! ## What the search keeps -/

structure Counts (routes : List CoreRuntimeRoute) (ids : List UInt64) (search : RouteSearch) :
    Prop where
  ids : search.nodes.map RouteNode.id = ids
  removed : search.removedCount = search.nodes.countP RouteNode.removed
  indegree : ∀ node ∈ search.nodes, node.removed = false →
    node.indegree.toNat = incoming routes (left search.nodes) node.id
  accessible : ∀ node ∈ search.nodes, node.removed = true → Acc (Edge routes) node.id

lemma left_iff {nodes : List RouteNode} {id : UInt64} :
    left nodes id = true ↔ ∃ node ∈ nodes, node.id = id ∧ node.removed = false := by
  simp only [left, List.any_eq_true, Bool.and_eq_true, decide_eq_true_eq, Bool.not_eq_true']

lemma left_takeAway (routes : List CoreRuntimeRoute) (source : UInt64) (nodes : List RouteNode)
    (id : UInt64) :
    left (nodes.map (takeAway routes source)) id = (left nodes id && !decide (id = source)) := by
  rw [Bool.eq_iff_iff, Bool.and_eq_true, left_iff, left_iff, Bool.not_eq_true',
    decide_eq_false_iff_not]
  constructor
  · rintro ⟨_, hmem, hid, hleft⟩
    obtain ⟨node, hnode, rfl⟩ := List.mem_map.mp hmem
    obtain ⟨hsame, hremoved, _⟩ := takeAway_spec routes source node
    rw [hsame] at hid
    have hnot : ¬ (node.removed = true ∨ node.id = source) := by
      rw [← hremoved, hleft]
      exact Bool.false_ne_true
    push Not at hnot
    exact ⟨⟨node, hnode, hid, Bool.eq_false_of_not_eq_true hnot.1⟩, hid ▸ hnot.2⟩
  · rintro ⟨⟨node, hnode, hid, hleft⟩, hother⟩
    obtain ⟨hsame, hremoved, _⟩ := takeAway_spec routes source node
    refine ⟨_, List.mem_map_of_mem hnode, hsame.trans hid, ?_⟩
    refine Bool.eq_false_of_not_eq_true fun h => ?_
    rcases hremoved.mp h with hgone | hsource
    · rw [hleft] at hgone
      exact Bool.noConfusion hgone
    · exact hother (hid.symm.trans hsource)

lemma incoming_split (routes : List CoreRuntimeRoute) {left : UInt64 → Bool} {source : UInt64}
    (hsource : left source = true) (id : UInt64) :
    incoming routes left id =
      incoming routes (fun other => left other && !decide (other = source)) id +
        incoming routes (fun other => other = source) id := by
  induction routes with
  | nil => rfl
  | cons route routes ih =>
    simp only [incoming, List.countP_cons] at ih ⊢
    rw [ih]
    by_cases hsame : route.fromId = source
    · simp only [hsame, hsource, decide_true, Bool.not_true, Bool.and_false, Bool.and_true,
        Bool.false_eq_true, if_false]
      omega
    · simp only [hsame, decide_false, Bool.not_false, Bool.and_true, Bool.and_false,
        Bool.false_eq_true, if_false]
      omega

lemma Counts.acc_of_free (h : Counts routes ids search)
    (hends : ∀ route ∈ routes, route.enabled = true → route.fromId ∈ ids)
    {node : RouteNode} (hnode : node ∈ search.nodes) (hleft : node.removed = false)
    (hfree : node.indegree = 0) : Acc (Edge routes) node.id := by
  refine .intro node.id ?_
  rintro source ⟨route, hroute, henabled, rfl, htarget⟩
  obtain ⟨other, hother, hid⟩ : ∃ other ∈ search.nodes, other.id = route.fromId := by
    have hmem := hends route hroute henabled
    rw [← h.ids] at hmem
    exact List.mem_map.mp hmem
  have hzero : incoming routes (left search.nodes) node.id = 0 := by
    rw [← h.indegree node hnode hleft, hfree]
    rfl
  rw [incoming, List.countP_eq_zero] at hzero
  have hgone : other.removed = true := by
    refine Bool.eq_true_of_not_eq_false fun hkept => hzero route hroute ?_
    rw [henabled, htarget, left_iff.mpr ⟨other, hother, hid, hkept⟩, decide_eq_true rfl]
    rfl
  exact hid ▸ h.accessible other hother hgone

lemma countP_removed : ∀ {nodes : List RouteNode}, (nodes.map RouteNode.id).Nodup →
    ∀ {node : RouteNode}, node ∈ nodes → node.removed = false →
      nodes.countP (fun other => other.removed || other.id = node.id) =
        nodes.countP RouteNode.removed + 1
  | [], _, _, hnode, _ => absurd hnode List.not_mem_nil
  | first :: rest, hnodup, node, hnode, hleft => by
    rw [List.map_cons, List.nodup_cons] at hnodup
    rw [List.countP_cons, List.countP_cons]
    rcases List.mem_cons.mp hnode with rfl | hrest
    · have hothers : rest.countP (fun other => other.removed || other.id = node.id) =
          rest.countP RouteNode.removed := by
        refine List.countP_congr fun other hother => ?_
        have hid : other.id ≠ node.id := fun hsame =>
          hnodup.1 (hsame ▸ List.mem_map_of_mem hother)
        simp [hid]
      rw [hothers, hleft]
      simp
    · have hid : first.id ≠ node.id := fun hsame =>
        hnodup.1 (hsame ▸ List.mem_map_of_mem hrest)
      rw [countP_removed hnodup.2 hrest hleft]
      simp only [hid, decide_false, Bool.or_false]
      omega

lemma Counts.visit (h : Counts routes ids search)
    (hnodup : ids.Nodup) (hends : ∀ route ∈ routes, route.enabled = true → route.fromId ∈ ids)
    (index : ℕ) : Counts routes ids (visit routes search index) := by
  rcases visit_cases routes (by rw [h.ids]; exact hnodup) index with
    ⟨hsame, _⟩ | ⟨node, hindex, hleft, hfree, hvisit⟩
  · rw [hsame]
    exact h
  · rw [hvisit]
    have hnode : node ∈ search.nodes := List.mem_of_getElem? hindex
    have hsource : left search.nodes node.id = true := left_iff.mpr ⟨node, hnode, rfl, hleft⟩
    have hlefts : left (search.nodes.map (takeAway routes node.id)) = fun id =>
        left search.nodes id && !decide (id = node.id) :=
      funext (left_takeAway routes node.id search.nodes)
    have hids : (search.nodes.map RouteNode.id).Nodup := by
      rw [h.ids]
      exact hnodup
    refine ⟨?_, ?_, ?_, ?_⟩
    · rw [← h.ids, List.map_map]
      exact List.map_congr_left fun other _ => (takeAway_spec routes node.id other).1
    · rw [List.countP_map, h.removed, ← countP_removed hids hnode hleft]
      refine List.countP_congr fun other _ => ?_
      rw [Function.comp_apply, (takeAway_spec routes node.id other).2.1, Bool.or_eq_true,
        decide_eq_true_eq]
    · intro after hafter hkept
      obtain ⟨other, hother, rfl⟩ := List.mem_map.mp hafter
      obtain ⟨hid, hremoved, hdegree⟩ := takeAway_spec routes node.id other
      have hkeptBefore : other.removed = false := by
        refine Bool.eq_false_of_not_eq_true fun hgone => ?_
        rw [hremoved.mpr (.inl hgone)] at hkept
        exact Bool.noConfusion hkept
      rw [hdegree hkept, h.indegree other hother hkeptBefore, hid, hlefts,
        incoming_split routes hsource, Nat.add_sub_cancel]
    · intro after hafter hgone
      obtain ⟨other, hother, rfl⟩ := List.mem_map.mp hafter
      obtain ⟨hid, hremoved, _⟩ := takeAway_spec routes node.id other
      rw [hid]
      rcases hremoved.mp hgone with hbefore | hsame
      · exact h.accessible other hother hbefore
      · rw [hsame]
        exact h.acc_of_free hends hnode hleft hfree

/-! ## Passes -/

section

variable {ids : List UInt64} {search : RouteSearch}

lemma Counts.le_length (h : Counts routes ids search) : search.removedCount ≤ ids.length := by
  rw [h.removed, ← h.ids, List.length_map]
  exact List.countP_le_length

lemma Counts.all_gone (h : Counts routes ids search) (hall : search.removedCount = ids.length) :
    ∀ node ∈ search.nodes, node.removed = true := by
  refine List.countP_eq_length.mp ?_
  rw [← h.removed, hall, ← h.ids, List.length_map]

/-- A row of visits keeps the counts; it has made progress when a node has gone, and otherwise each
node it has come by was passed. -/
lemma visits (hnodup : ids.Nodup)
    (hends : ∀ route ∈ routes, route.enabled = true → route.fromId ∈ ids) :
    ∀ (indices : List ℕ) {search : RouteSearch}, Counts routes ids search →
      let after := indices.foldl (visit routes) search
      Counts routes ids after ∧ search.removedCount ≤ after.removedCount ∧
      (after.progress = true → search.progress = true ∨ search.removedCount < after.removedCount) ∧
      (after.progress = false → after = search ∧ ∀ index ∈ indices, ∀ node,
        search.nodes[index]? = some node → node.removed = true ∨ node.indegree ≠ 0)
  | [], _, h => ⟨h, Nat.le_refl _, .inl, fun _ => ⟨rfl, by simp⟩⟩
  | index :: indices, search, h => by
    obtain ⟨hcounts, hmono, hprogress, hstuck⟩ :=
      visits hnodup hends indices (h.visit hnodup hends index)
    rw [List.foldl_cons]
    rcases visit_cases routes (by rw [h.ids]; exact hnodup) index with
      ⟨hsame, hpassed⟩ | ⟨node, _, _, _, hvisit⟩
    · rw [hsame] at hcounts hmono hprogress hstuck ⊢
      refine ⟨hcounts, hmono, hprogress, fun hnone => ⟨(hstuck hnone).1, ?_⟩⟩
      intro other hother
      rcases List.mem_cons.mp hother with rfl | hrest
      · exact hpassed
      · exact (hstuck hnone).2 other hrest
    · have hone : (visit routes search index).removedCount = search.removedCount + 1 := by
        rw [hvisit]
      refine ⟨hcounts, by omega, fun _ => .inr (by omega), fun hnone => ?_⟩
      -- a node has gone, and progress is never taken back
      have hyes : (visit routes search index).progress = true := by rw [hvisit]
      rw [(hstuck hnone).1, hyes] at hnone
      exact Bool.noConfusion hnone

lemma Counts.pass (h : Counts routes ids search) (hnodup : ids.Nodup)
    (hends : ∀ route ∈ routes, route.enabled = true → route.fromId ∈ ids) :
    Counts routes ids (pass routes search) ∧
    ((pass routes search).progress = true →
      search.removedCount < (pass routes search).removedCount) ∧
    ((pass routes search).progress = false → ∀ node ∈ (pass routes search).nodes,
      node.removed = true ∨ node.indegree ≠ 0) := by
  have hstart : Counts routes ids { search with progress := false } :=
    ⟨h.ids, h.removed, h.indegree, h.accessible⟩
  obtain ⟨hcounts, _, hprogress, hstuck⟩ :=
    visits hnodup hends (List.range search.nodes.length) hstart
  refine ⟨hcounts, fun hyes => (hprogress hyes).resolve_left Bool.noConfusion, ?_⟩
  intro hnone node hnode
  obtain ⟨hsame, hpassed⟩ := hstuck hnone
  rw [CoreRoutingState.pass, hsame] at hnode
  obtain ⟨index, hindex, hget⟩ := List.mem_iff_getElem.mp hnode
  exact hpassed index (List.mem_range.mpr hindex) node (hget ▸ List.getElem?_eq_getElem hindex)

lemma Counts.all_removed (h : Counts routes ids search) (hacyclic : Acyclic (Edge routes))
    (hstuck : ∀ node ∈ search.nodes, node.removed = true ∨ node.indegree ≠ 0) :
    search.removedCount = ids.length := by
  have hnone : ∀ node ∈ search.nodes, node.removed = true := by
    by_contra hsome
    push Not at hsome
    obtain ⟨node, hnode, hkept⟩ := hsome
    have hkept : node.removed = false := Bool.eq_false_of_not_eq_true hkept
    obtain ⟨id, hid, hfree⟩ := hacyclic.exists_free (s := {id | left search.nodes id = true})
      ((search.nodes.map RouteNode.id).finite_toSet.subset fun id hid => by
        obtain ⟨node, hnode, rfl, _⟩ := left_iff.mp hid
        exact List.mem_map_of_mem hnode)
      ⟨node.id, left_iff.mpr ⟨node, hnode, rfl, hkept⟩⟩
    obtain ⟨first, hfirst, rfl, hleft⟩ := left_iff.mp hid
    have hdegree : first.indegree ≠ 0 := by
      rcases hstuck first hfirst with hgone | hdegree
      · rw [hleft] at hgone
        exact Bool.noConfusion hgone
      · exact hdegree
    -- its indegree counts a route from a node that is left as well
    have hpositive : 0 < incoming routes (left search.nodes) first.id := by
      rw [← h.indegree first hfirst hleft, Nat.pos_iff_ne_zero]
      exact fun hzero => hdegree (UInt16.toNat_inj.mp hzero)
    rw [incoming, List.countP_pos_iff] at hpositive
    obtain ⟨route, hroute, hcounted⟩ := hpositive
    simp only [Bool.and_eq_true, decide_eq_true_eq] at hcounted
    exact hfree route.fromId hcounted.2 ⟨route, hroute, hcounted.1.1, rfl, hcounted.1.2⟩
  rw [h.removed, List.countP_eq_length.mpr hnone, ← h.ids, List.length_map]

lemma Counts.passes (hnodup : ids.Nodup)
    (hends : ∀ route ∈ routes, route.enabled = true → route.fromId ∈ ids) :
    ∀ (count : ℕ) {search : RouteSearch}, Counts routes ids search →
      Counts routes ids (passes routes count search) ∧
      (Acyclic (Edge routes) → ids.length ≤ search.removedCount + count →
        (passes routes count search).removedCount = ids.length)
  | 0, _, h => ⟨h, fun _ henough => Nat.le_antisymm h.le_length henough⟩
  | count + 1, search, h => by
    obtain ⟨hcounts, hprogress, hstuck⟩ := h.pass hnodup hends
    rw [CoreRoutingState.passes]
    split
    · rename_i hyes
      obtain ⟨hrest, hdone⟩ := passes hnodup hends count hcounts
      have hmore := hprogress hyes
      exact ⟨hrest, fun hacyclic henough => hdone hacyclic (by omega)⟩
    · rename_i hnone
      exact ⟨hcounts, fun hacyclic _ =>
        hcounts.all_removed hacyclic (hstuck (Bool.eq_false_of_not_eq_true hnone))⟩

end

lemma counts_start {ids : List UInt64} (hroom : routes.length < 2 ^ 16)
    (hends : ∀ route ∈ routes, route.enabled = true → route.fromId ∈ ids) :
    Counts routes ids ⟨countIndegrees routes (ids.map fun id => ⟨id, 0, false⟩), 0, false⟩ := by
  have hspec : ∀ id : UInt64, _ := fun id => raise_fold routes ⟨id, 0, false⟩ (by
    rw [UInt16.toNat_zero, Nat.zero_add]
    exact hroom)
  have hnodes : countIndegrees routes (ids.map fun id => ⟨id, 0, false⟩) =
      ids.map fun id => routes.foldl (fun node route => raise route node) ⟨id, 0, false⟩ := by
    rw [countIndegrees, foldl_map, List.map_map]
    rfl
  rw [hnodes]
  refine ⟨?_, ?_, ?_, ?_⟩
  · rw [List.map_map]
    exact (List.map_congr_left fun id _ => (hspec id).1).trans (List.map_id ids)
  · refine (List.countP_eq_zero.mpr fun node hnode => ?_).symm
    obtain ⟨id, _, rfl⟩ := List.mem_map.mp hnode
    rw [(hspec id).2.1]
    exact Bool.false_ne_true
  · intro node hnode _
    obtain ⟨id, _, rfl⟩ := List.mem_map.mp hnode
    rw [(hspec id).2.2, (hspec id).1, UInt16.toNat_zero, Nat.zero_add, incoming, incoming]
    refine List.countP_congr fun route hroute => ?_
    by_cases henabled : route.enabled = true
    · have hleft : left (ids.map fun id =>
          routes.foldl (fun node route => raise route node) ⟨id, 0, false⟩) route.fromId = true :=
        left_iff.mpr ⟨_, List.mem_map_of_mem (hends route hroute henabled),
          (hspec _).1, (hspec _).2.1⟩
      rw [hleft]
    · simp only [henabled, Bool.false_and]
  · intro node hnode hgone
    obtain ⟨id, _, rfl⟩ := List.mem_map.mp hnode
    rw [(hspec id).2.1] at hgone
    exact Bool.noConfusion hgone

variable {capacity : ℕ} {s : CoreRoutingState}

/-- **The search is complete and sound.** -/
theorem validate_iff_acyclic (hcapacity : capacity < 2 ^ 16)
    (hlength : s.staged.length ≤ capacity) :
    validate capacity s = true ↔ s.isOpen = true ∧ Acyclic (Edge s.staged) := by
  rw [validate]
  by_cases hopen : s.isOpen = false
  · rw [if_pos hopen, hopen]
    exact ⟨fun h => absurd h Bool.false_ne_true, fun h => absurd h.1 Bool.false_ne_true⟩
  · rw [if_neg hopen, decide_eq_true_eq]
    have hcollected : Collected (capacity * 2) s.staged (nodeIds (capacity * 2) s.staged) :=
      collected_nodeIds (by omega)
    have hends : ∀ route ∈ s.staged, route.enabled = true →
        route.fromId ∈ nodeIds (capacity * 2) s.staged :=
      fun route hroute henabled => (hcollected.ends route hroute henabled).1
    obtain ⟨hcounts, hcomplete⟩ := Counts.passes hcollected.nodup hends
      (nodeIds (capacity * 2) s.staged).length (counts_start (by omega) hends)
    refine ⟨fun hall => ⟨Bool.eq_true_of_not_eq_false hopen, ?_⟩,
      fun h => hcomplete h.2 (Nat.le_add_left _ _)⟩
    refine .of_acc ?_
    rintro _ _ ⟨route, hroute, henabled, _, rfl⟩
    have htarget := (hcollected.ends route hroute henabled).2
    rw [← hcounts.ids] at htarget
    obtain ⟨node, hnode, hid⟩ := List.mem_map.mp htarget
    exact hid ▸ hcounts.accessible node hnode (hcounts.all_gone hall node hnode)

/-! ## Runs -/

/-- A table whose routes have two ends each and no two the same. -/
structure Table (capacity : ℕ) (routes : List CoreRuntimeRoute) : Prop where
  length : routes.length ≤ capacity
  nodup : (routes.map fun route => (route.fromId, route.toId)).Nodup
  ends : ∀ route ∈ routes, route.fromId ≠ 0 ∧ route.toId ≠ 0 ∧ route.fromId ≠ route.toId

inductive Action
  | begin (expectedRevision : UInt64)
  | set (route : CoreRuntimeRoute)
  | validate
  | commit
  | rollback
  deriving DecidableEq

def perform (capacity : ℕ) (s : CoreRoutingState) : Action → CoreRoutingState × Bool
  | .begin expectedRevision => begin s expectedRevision
  | .set route => set capacity s route
  | .validate => (s, validate capacity s)
  | .commit => commit capacity s
  | .rollback => (rollback s, true)

def step (capacity : ℕ) (s : CoreRoutingState) (action : Action) : Option CoreRoutingState :=
  some (perform capacity s action).1

structure Sound (capacity : ℕ) (s : CoreRoutingState) : Prop where
  active : Table capacity s.active
  staged : Table capacity s.staged
  acyclic : Acyclic (Edge s.active)

lemma replace_some {route : CoreRuntimeRoute} :
    ∀ {routes staged : List CoreRuntimeRoute}, replace route routes = some staged →
      (staged.map fun route => (route.fromId, route.toId)) =
        (routes.map fun route => (route.fromId, route.toId)) ∧
      ∀ other ∈ staged, other = route ∨ other ∈ routes
  | [], _, h => absurd h (Option.some_ne_none _).symm
  | first :: rest, staged, h => by
    rw [replace] at h
    split at h
    · rename_i hsame
      cases h
      refine ⟨by rw [List.map_cons, List.map_cons, hsame.1, hsame.2], ?_⟩
      intro other hother
      exact (List.mem_cons.mp hother).imp_right (List.mem_cons_of_mem _)
    · obtain ⟨tail, htail, rfl⟩ := Option.map_eq_some_iff.mp h
      obtain ⟨hends, hmem⟩ := replace_some htail
      refine ⟨by rw [List.map_cons, List.map_cons, hends], ?_⟩
      intro other hother
      rcases List.mem_cons.mp hother with rfl | hrest
      · exact .inr List.mem_cons_self
      · exact (hmem other hrest).imp_right (List.mem_cons_of_mem _)

lemma replace_none {route : CoreRuntimeRoute} :
    ∀ {routes : List CoreRuntimeRoute}, replace route routes = none →
      (route.fromId, route.toId) ∉ routes.map fun route => (route.fromId, route.toId)
  | [], _ => List.not_mem_nil
  | first :: rest, h => by
    rw [replace] at h
    split at h
    · cases h
    · rename_i hother
      rw [List.map_cons, List.mem_cons, Prod.mk.injEq]
      rintro (hsame | hrest)
      · exact hother ⟨hsame.1.symm, hsame.2.symm⟩
      · exact replace_none (Option.map_eq_none_iff.mp h) hrest

lemma Table.set (h : Table capacity s.staged) (route : CoreRuntimeRoute) :
    Table capacity (set capacity s route).1.staged ∧ (set capacity s route).1.active = s.active := by
  rw [CoreRoutingState.set]
  split
  · exact ⟨h, rfl⟩
  · rename_i hchecks
    push Not at hchecks
    cases hreplace : replace route s.staged with
    | some staged =>
      obtain ⟨hends, hmem⟩ := replace_some hreplace
      have hlength : staged.length = s.staged.length := by
        have := congrArg List.length hends
        rwa [List.length_map, List.length_map] at this
      refine ⟨⟨hlength ▸ h.length, hends ▸ h.nodup, fun other hother => ?_⟩, rfl⟩
      rcases hmem other hother with rfl | hold
      · exact hchecks.2
      · exact h.ends other hold
    | none =>
      simp only
      split
      · exact ⟨h, rfl⟩
      · rename_i hroom
        refine ⟨⟨?_, ?_, fun other hother => ?_⟩, rfl⟩
        · simp only [List.length_append, List.length_singleton]
          omega
        · simp only [List.map_append, List.map_cons, List.map_nil]
          exact List.nodup_append.mpr ⟨h.nodup, List.nodup_singleton _, fun a ha b hb heq =>
            replace_none hreplace (List.mem_singleton.mp hb ▸ heq ▸ ha)⟩
        · rcases List.mem_append.mp hother with hold | hnew
          · exact h.ends other hold
          · rw [List.mem_singleton.mp hnew]
            exact hchecks.2

theorem Sound.of_step (hcapacity : capacity < 2 ^ 16) {s after : CoreRoutingState}
    (h : Sound capacity s) {action : Action} (hstep : step capacity s action = some after) :
    Sound capacity after := by
  cases hstep
  cases action with
  | begin expectedRevision =>
    simp only [perform, begin]
    split
    · exact ⟨h.active, h.staged, h.acyclic⟩
    · exact ⟨h.active, h.active, h.acyclic⟩
  | set route =>
    obtain ⟨hstaged, hactive⟩ := h.staged.set route
    exact ⟨hactive ▸ h.active, hstaged, hactive ▸ h.acyclic⟩
  | validate => exact h
  | commit =>
    simp only [perform, commit]
    split
    · exact h
    · rename_i hchecks
      push Not at hchecks
      have hvalid : validate capacity s = true := Bool.eq_true_of_not_eq_false hchecks.2
      exact ⟨h.staged, h.staged, ((validate_iff_acyclic hcapacity h.staged.length).mp hvalid).2⟩
  | rollback => exact ⟨h.active, h.staged, h.acyclic⟩

theorem sound_of_reaches (hcapacity : capacity < 2 ^ 16) {actions : List Action}
    (h : Reaches (step capacity) Always initial actions s) :
    Sound capacity s := by
  have hempty : Table capacity [] := ⟨Nat.zero_le _, List.nodup_nil, by simp⟩
  have hinitial : Sound capacity initial :=
    ⟨hempty, hempty, .of_acc fun _ _ hedge => by simp [Edge, initial] at hedge⟩
  exact h.invariant hinitial fun _ _ _ ht _ hstep => ht.of_step hcapacity hstep

theorem perform_active (capacity : ℕ) (s : CoreRoutingState) (action : Action) :
    ((perform capacity s action).1.active = s.active ∧
      (perform capacity s action).1.revision = s.revision) ∨
    (action = .commit ∧ (perform capacity s action).2 = true ∧
      (perform capacity s action).1.active = s.staged ∧
      (perform capacity s action).1.revision = s.revision + 1) := by
  cases action with
  | begin expectedRevision =>
    simp only [perform, begin]
    split <;> exact .inl ⟨rfl, rfl⟩
  | set route =>
    simp only [perform, set]
    split
    · exact .inl ⟨rfl, rfl⟩
    · split
      · exact .inl ⟨rfl, rfl⟩
      · split <;> exact .inl ⟨rfl, rfl⟩
  | validate => exact .inl ⟨rfl, rfl⟩
  | commit =>
    simp only [perform, commit]
    split
    · exact .inl ⟨rfl, rfl⟩
    · exact .inr ⟨trivial, rfl, rfl, rfl⟩
  | rollback => exact .inl ⟨rfl, rfl⟩

/-- **Routing stays acyclic.** In every state of every run `validate` answers true exactly when a
transaction is open and its enabled routes have no cycle; the enabled routes of the active table have
none, and it lists no pair of ends twice; and only a commit that succeeds changes the active table or
the revision. -/
theorem routing_stays_acyclic {capacity : ℕ} (hcapacity : capacity < 2 ^ 16)
    {actions : List Action} {s : CoreRoutingState}
    (h : Reaches (step capacity) Always initial actions s) :
    (validate capacity s = true ↔ s.isOpen = true ∧ Acyclic (Edge s.staged)) ∧
    Acyclic (Edge s.active) ∧
    (s.active.map fun route => (route.fromId, route.toId)).Nodup ∧
    ∀ action, ((perform capacity s action).1.active ≠ s.active ∨
        (perform capacity s action).1.revision ≠ s.revision) →
      action = .commit ∧ (perform capacity s action).2 = true := by
  have hsound := sound_of_reaches hcapacity h
  refine ⟨validate_iff_acyclic hcapacity hsound.staged.length, hsound.acyclic,
    hsound.active.nodup, fun action hchanged => ?_⟩
  rcases perform_active capacity s action with ⟨hactive, hrevision⟩ | ⟨haction, hanswer, _⟩
  · rcases hchanged with hchanged | hchanged
    · exact absurd hactive hchanged
    · exact absurd hrevision hchanged
  · exact ⟨haction, hanswer⟩

theorem routing_stays_acyclic_circle : ∃ s, Reaches (step 128) Always initial
        [.begin 0, .set ⟨1, 2, 2, 0, true⟩, .set ⟨2, 3, 2, 0, true⟩, .commit, .begin 1,
          .set ⟨3, 1, 2, 0, true⟩] s ∧
      s.isOpen = true ∧ s.revision = 1 ∧ ¬ Acyclic (Edge s.staged) ∧ Acyclic (Edge s.active) := by
  have hrun : (run (step 128) initial
      [.begin 0, .set ⟨1, 2, 2, 0, true⟩, .set ⟨2, 3, 2, 0, true⟩, .commit, .begin 1,
        .set ⟨3, 1, 2, 0, true⟩]).any (fun s => s.isOpen = true ∧ s.revision = 1 ∧
          validate 128 s = false) = true := by decide +kernel
  obtain ⟨s, hs, hopen, hrevision, hinvalid⟩ := reaches_always_of_any hrun
  obtain ⟨hvalidate, hactive, _⟩ := routing_stays_acyclic (by decide) hs
  refine ⟨s, hs, hopen, hrevision, fun hacyclic => ?_, hactive⟩
  rw [hvalidate.mpr ⟨hopen, hacyclic⟩] at hinvalid
  exact Bool.noConfusion hinvalid

/-- **A closed transaction does not validate.** After the commit of a route the staged table has no
cycle, and `validate` answers false. -/
theorem closed_does_not_validate :
    ∃ s, Reaches (step 128) Always initial [.begin 0, .set ⟨1, 2, 2, 0, true⟩, .commit] s ∧
      s.staged = [⟨1, 2, 2, 0, true⟩] ∧ Acyclic (Edge s.staged) ∧ validate 128 s = false := by
  have hrun : (run (step 128) initial [.begin 0, .set ⟨1, 2, 2, 0, true⟩, .commit]).any
      (fun s => s.staged = [⟨1, 2, 2, 0, true⟩] ∧ s.active = s.staged ∧ validate 128 s = false) =
        true := by decide +kernel
  obtain ⟨s, hs, hstaged, hactive, hinvalid⟩ := reaches_always_of_any hrun
  exact ⟨s, hs, hstaged, hactive ▸ (sound_of_reaches (by decide) hs).acyclic, hinvalid⟩

end CoreRoutingState

end StageForge
