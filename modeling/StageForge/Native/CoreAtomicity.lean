import StageForge.Native.CommandReplay

/-!
# What a refused mutation leaves behind

A mutation of `CoreControlState` that is refused should leave the transport, the monitor buses and
all revisions as they were. Two branches of the source do not undo what they have done:

* `mutateMonitorScoped` makes the bus of a player before it looks at the field, so a command with an
  unknown field, or with a level that is not finite, leaves a new bus behind (`MakesBus`).
* `commitSnapshot` writes the transport and then bus after bus, and stops where a bus cannot be made;
  what it has written by then stays, while the snapshot is refused (`CommitsPartly`).
-/

namespace StageForge

open TransitionSystem

variable {S : NativeFloats}

/-! ## The two registries -/

namespace MonitorBusRegistry

variable (buses : MonitorBusRegistry S) (player : String)

def players : List String := buses.map Prod.fst

@[simp] lemma players_write (f : MonitorBus S → MonitorBus S) :
    (buses.write player f).players = buses.players := by
  simp only [players, write, List.map_map]
  refine List.map_congr_left ?_
  intro entry _
  simp only [Function.comp_apply]
  split_ifs <;> rfl

lemma length_players : buses.players.length = buses.length := List.length_map _

lemma getOrCreate_cases (hnamed : player ≠ "" ∧ player.utf8ByteSize ≤ 64) :
    (player ∈ buses.players ∧ buses.getOrCreate player = some buses) ∨
    (player ∉ buses.players ∧ buses.length < capacity ∧
      buses.getOrCreate player = some (buses ++ [(player, .initial S)])) ∨
    (player ∉ buses.players ∧ capacity ≤ buses.length ∧ buses.getOrCreate player = none) := by
  have hname : ¬ (player = "" ∨ 64 < player.utf8ByteSize) := by
    rintro (hempty | hlong)
    · exact hnamed.1 hempty
    · omega
  unfold getOrCreate
  rw [if_neg hname]
  by_cases hmade : player ∈ buses.map Prod.fst
  · exact .inl ⟨hmade, if_pos hmade⟩
  · rw [if_neg hmade]
    by_cases hfull : capacity ≤ buses.length
    · exact .inr (.inr ⟨hmade, hfull, if_pos hfull⟩)
    · exact .inr (.inl ⟨hmade, by omega, if_neg hfull⟩)

lemma getOrCreate_unnamed (h : player = "" ∨ 64 < player.utf8ByteSize) :
    buses.getOrCreate player = none := by
  rw [getOrCreate, if_pos h]

lemma of_getOrCreate {buses made : MonitorBusRegistry S} {player : String}
    (h : buses.getOrCreate player = some made) :
    player ∈ made.players ∧ buses.players ⊆ made.players ∧
      (buses.length ≤ capacity → made.length ≤ capacity) := by
  have hname : ¬ (player = "" ∨ 64 < player.utf8ByteSize) := by
    intro hbad
    rw [getOrCreate_unnamed buses player hbad] at h
    cases h
  push Not at hname
  rcases buses.getOrCreate_cases player hname with ⟨hmade, heq⟩ | ⟨-, hroom, heq⟩ | ⟨-, -, heq⟩
  · obtain rfl := Option.some.inj (heq.symm.trans h)
    exact ⟨hmade, List.Subset.refl _, id⟩
  · obtain rfl := Option.some.inj (heq.symm.trans h)
    refine ⟨by simp [players], by simp [players], fun _ => ?_⟩
    rw [List.length_append]
    exact hroom
  · rw [heq] at h
    cases h

end MonitorBusRegistry

namespace CoreControlState

/-- The buses fit in their registry, and a monitor revision belongs to a bus. -/
structure RegistriesKept (c : CoreControlState S) : Prop where
  busesFew : c.monitors.length ≤ MonitorBusRegistry.capacity
  revisionsNodup : (c.monitorRevisions.map Prod.fst).Nodup
  revisionsMade : c.monitorRevisions.map Prod.fst ⊆ c.monitors.players

/-- The players of a draft are all different and have proper names. -/
structure StagedKept (staged : List (String × MonitorBus S)) : Prop where
  nodup : (staged.map Prod.fst).Nodup
  named : ∀ player ∈ staged.map Prod.fst, player ≠ "" ∧ player.utf8ByteSize ≤ 64

structure Kept (c : CoreControlState S) : Prop where
  registries : c.RegistriesKept
  staged : StagedKept c.draft.monitors

variable {c : CoreControlState S} {player : String}

variable {c' : CoreControlState S}

lemma RegistriesKept.congr (h : c.RegistriesKept)
    (hbuses : c'.monitors = c.monitors) (hrevisions : c'.monitorRevisions = c.monitorRevisions) :
    c'.RegistriesKept := by
  obtain ⟨hfew, hnodup, hmade⟩ := h
  exact ⟨by rw [hbuses]; exact hfew, by rw [hrevisions]; exact hnodup,
    by rw [hbuses, hrevisions]; exact hmade⟩

open MonitorBusRegistry

lemma RegistriesKept.withMonitors (h : c.RegistriesKept) {buses : MonitorBusRegistry S}
    (hplayers : c.monitors.players ⊆ buses.players)
    (hfew : buses.length ≤ capacity) :
    { c with monitors := buses }.RegistriesKept :=
  ⟨hfew, h.revisionsNodup, fun _ hp => hplayers (h.revisionsMade hp)⟩

lemma RegistriesKept.written {w : CoreControlState S} (h : c.RegistriesKept)
    {buses : MonitorBusRegistry S} (hbuses : c.monitors.getOrCreate player = some buses)
    {f : MonitorBus S → MonitorBus S} (hmonitors : w.monitors = buses.write player f)
    (hrevisions : w.monitorRevisions = c.monitorRevisions) :
    w.RegistriesKept ∧ player ∈ w.monitors.players := by
  obtain ⟨hmade, hplayers, hfew⟩ := of_getOrCreate hbuses
  have hsame : w.monitors.players = buses.players := by
    rw [hmonitors, players_write]
  refine ⟨⟨?_, ?_, ?_⟩, hsame ▸ hmade⟩
  · rw [hmonitors, write, List.length_map]
    exact hfew h.busesFew
  · rw [hrevisions]
    exact h.revisionsNodup
  · rw [hrevisions, hsame]
    exact fun _ hp => hplayers (h.revisionsMade hp)

lemma lookup_map_set (entries : List (String × UInt64)) (revision : UInt64) (other : String) :
    (entries.map fun entry => if entry.1 = player then (entry.1, revision) else entry).lookup other =
      if other = player then (entries.lookup other).map fun _ => revision
      else entries.lookup other := by
  induction entries with
  | nil => simp
  | cons entry rest ih =>
    obtain ⟨name, old⟩ := entry
    rw [List.map_cons, List.lookup_cons]
    by_cases hname : name = player
    · subst hname
      rw [if_pos rfl, List.lookup_cons, ih]
      by_cases hother : other = name
      · simp [hother]
      · simp [hother, beq_eq_false_iff_ne.mpr hother]
    · rw [if_neg hname, List.lookup_cons, ih]
      by_cases hother : other = name
      · subst hother
        simp [hname]
      · simp [beq_eq_false_iff_ne.mpr hother]

lemma keys_map_set (entries : List (String × UInt64)) (revision : UInt64) :
    (entries.map fun entry => if entry.1 = player then (entry.1, revision) else entry).map Prod.fst =
      entries.map Prod.fst := by
  rw [List.map_map]
  refine List.map_congr_left ?_
  intro entry _
  simp only [Function.comp_apply]
  split_ifs <;> rfl

lemma RegistriesKept.room (h : c.RegistriesKept) (hmade : player ∈ c.monitors.players)
    (hnew : player ∉ c.monitorRevisions.map Prod.fst) :
    c.monitorRevisions.length < capacity := by
  have hnodup : (player :: c.monitorRevisions.map Prod.fst).Nodup :=
    List.nodup_cons.mpr ⟨hnew, h.revisionsNodup⟩
  have hsubset : player :: c.monitorRevisions.map Prod.fst ⊆ c.monitors.players :=
    List.cons_subset.mpr ⟨hmade, h.revisionsMade⟩
  have hlength := (hnodup.subperm hsubset).length_le
  rw [List.length_cons, List.length_map, c.monitors.length_players] at hlength
  have hfew := h.busesFew
  omega

/-- **Raising the monitor revision of a player with a bus never throws.** -/
lemma RegistriesKept.bump (h : c.RegistriesKept) (hmade : player ∈ c.monitors.players) :
    ∃ revisions, c.bumpMonitorRevision player =
        some ({ c with monitorRevisions := revisions }, c.monitorRevision player + 1) ∧
      { c with monitorRevisions := revisions }.RegistriesKept ∧
      { c with monitorRevisions := revisions }.monitorRevision player =
        c.monitorRevision player + 1 ∧
      ∀ other ≠ player,
        { c with monitorRevisions := revisions }.monitorRevision other = c.monitorRevision other := by
  cases hlookup : c.monitorRevisions.lookup player with
  | some revision =>
    refine ⟨c.monitorRevisions.map fun entry =>
      if entry.1 = player then (entry.1, revision + 1) else entry, ?_, ⟨h.busesFew, ?_, ?_⟩, ?_, ?_⟩
    · simp only [bumpMonitorRevision, monitorRevision, hlookup, Option.getD_some]
    · rw [keys_map_set]
      exact h.revisionsNodup
    · rw [keys_map_set]
      exact h.revisionsMade
    · simp [monitorRevision, lookup_map_set, hlookup]
    · intro other hother
      simp [monitorRevision, lookup_map_set, hother]
  | none =>
    have hnew : player ∉ c.monitorRevisions.map Prod.fst := by
      intro hmem
      obtain ⟨entry, hentry, rfl⟩ := List.mem_map.mp hmem
      simpa using List.lookup_eq_none_iff.mp hlookup entry hentry
    have hroom := h.room hmade hnew
    refine ⟨c.monitorRevisions ++ [(player, 2)], ?_, ⟨h.busesFew, ?_, ?_⟩, ?_, ?_⟩
    · simp only [bumpMonitorRevision, monitorRevision, hlookup, Option.getD_none]
      rw [if_neg (by omega)]
      rfl
    · rw [List.map_append, List.nodup_append]
      refine ⟨h.revisionsNodup, by simp, ?_⟩
      rintro other hother last hlast rfl
      obtain rfl : other = player := List.mem_singleton.mp hlast
      exact hnew hother
    · rw [List.map_append]
      exact List.append_subset.mpr ⟨h.revisionsMade, by simpa using hmade⟩
    · simp [monitorRevision, List.lookup_append, hlookup]
    · intro other hother
      simp [monitorRevision, List.lookup_append, List.lookup_cons, beq_eq_false_iff_ne.mpr hother]

/-! ## Every run keeps the registries -/

lemma registries_mutateMonitorBus (h : c.RegistriesKept) (field : String) (value : S.Double)
    (current : UInt64) : (c.mutateMonitorBus player field value current).state.RegistriesKept := by
  unfold mutateMonitorBus
  cases hbuses : c.monitors.getOrCreate player with
  | none => exact h.congr rfl rfl
  | some buses =>
    obtain ⟨-, hplayers, hfew⟩ := of_getOrCreate hbuses
    have hwith := h.withMonitors hplayers (hfew h.busesFew)
    cases monitorWrite (S := S) field value with
    | none => exact hwith.congr rfl rfl
    | some f =>
      obtain ⟨hwritten, hmade⟩ := h.written
        (w := { c with monitors := buses.write player f, revision := c.revision + 1 })
        hbuses rfl rfl
      obtain ⟨revisions, hbump, hkept, -, -⟩ := hwritten.bump hmade
      simp only [hbump]
      exact hkept.congr rfl rfl

structure MonitorCommitted (c : CoreControlState S) (player : String) (c' : CoreControlState S) :
    Prop where
  registries : c'.RegistriesKept
  players : ∀ other, other ∈ c'.monitors.players ↔ other = player ∨ other ∈ c.monitors.players
  length : c'.monitors.length = c.monitors.length + if player ∈ c.monitors.players then 0 else 1
  raised : c'.monitorRevision player = c.monitorRevision player + 1
  others : ∀ other ≠ player, c'.monitorRevision other = c.monitorRevision other
  draft : c'.draft = c.draft
  transport : c'.transportRevision = c.transportRevision

lemma commitMonitors_cons (h : c.RegistriesKept) (hnamed : player ≠ "" ∧ player.utf8ByteSize ≤ 64)
    (snapshot : MonitorBus S) (rest : List (String × MonitorBus S)) :
    (player ∉ c.monitors.players ∧ capacity ≤ c.monitors.length ∧
      commitMonitors ((player, snapshot) :: rest) c = (c, false)) ∨
    ((player ∈ c.monitors.players ∨ c.monitors.length < capacity) ∧
      ∃ c', commitMonitors ((player, snapshot) :: rest) c = commitMonitors rest c' ∧
        c.MonitorCommitted player c') := by
  -- whichever buses there are then, the rest of the turn is the same
  have hturn : ∀ buses : MonitorBusRegistry S, c.monitors.getOrCreate player = some buses →
      (∀ other, other ∈ buses.players ↔ other = player ∨ other ∈ c.monitors.players) →
      buses.length = c.monitors.length + (if player ∈ c.monitors.players then 0 else 1) →
      ∃ c', commitMonitors ((player, snapshot) :: rest) c = commitMonitors rest c' ∧
        c.MonitorCommitted player c' := by
    intro buses hbuses hplayers hlength
    obtain ⟨hwritten, hmade⟩ := h.written
      (w := { c with monitors := buses.write player fun _ => snapshot.restore })
      (f := fun _ => snapshot.restore) hbuses rfl rfl
    obtain ⟨revisions, hbump, hkept, hraised, hothers⟩ := hwritten.bump hmade
    refine ⟨_, ?_, hkept, ?_, ?_, hraised, hothers, rfl, rfl⟩
    · simp only [commitMonitors, hbuses, hbump]
    · intro other
      rw [players_write]
      exact hplayers other
    · rw [write, List.length_map]
      exact hlength
  rcases c.monitors.getOrCreate_cases player hnamed with
    ⟨hmade, heq⟩ | ⟨hnew, hroom, heq⟩ | ⟨hnew, hfull, heq⟩
  · refine .inr ⟨.inl hmade, hturn _ heq ?_ ?_⟩
    · intro other
      constructor
      · exact .inr
      · rintro (rfl | hother)
        · exact hmade
        · exact hother
    · rw [if_pos hmade, Nat.add_zero]
  · refine .inr ⟨.inr hroom, hturn _ heq ?_ ?_⟩
    · intro other
      simp [players, or_comm]
    · rw [if_neg hnew, List.length_append, List.length_singleton]
  · refine .inl ⟨hnew, hfull, ?_⟩
    simp only [commitMonitors, heq]

/-- The staged monitors whose players have no bus. -/
def withoutBus (c : CoreControlState S) (staged : List (String × MonitorBus S)) :
    List (String × MonitorBus S) :=
  staged.filter fun entry => decide (entry.1 ∉ c.monitors.players)

lemma StagedKept.tail {entry : String × MonitorBus S} {rest : List (String × MonitorBus S)}
    (h : StagedKept (entry :: rest)) :
    (entry.1 ≠ "" ∧ entry.1.utf8ByteSize ≤ 64) ∧ entry.1 ∉ rest.map Prod.fst ∧ StagedKept rest := by
  obtain ⟨hnodup, hnamed⟩ := h
  rw [List.map_cons, List.nodup_cons] at hnodup
  exact ⟨hnamed _ (by simp), hnodup.1, hnodup.2,
    fun player hplayer => hnamed player (by simp [hplayer])⟩

lemma MonitorCommitted.withoutBus (h : c.MonitorCommitted player c')
    {rest : List (String × MonitorBus S)} (hother : player ∉ rest.map Prod.fst) :
    c'.withoutBus rest = c.withoutBus rest := by
  refine List.filter_congr ?_
  intro entry hentry
  have hne : entry.1 ≠ player := by
    rintro rfl
    exact hother (List.mem_map_of_mem hentry)
  simp [h.players, hne]

lemma commitMonitors_spec (staged : List (String × MonitorBus S)) :
    ∀ c : CoreControlState S, c.RegistriesKept → StagedKept staged →
      (commitMonitors staged c).1.RegistriesKept ∧
      (commitMonitors staged c).1.draft = c.draft ∧
      (commitMonitors staged c).1.transportRevision = c.transportRevision ∧
      (∀ other ∉ staged.map Prod.fst,
        (commitMonitors staged c).1.monitorRevision other = c.monitorRevision other) ∧
      ((commitMonitors staged c).2 = false ↔
        capacity < c.monitors.length + (c.withoutBus staged).length) := by
  induction staged with
  | nil =>
    intro c h _
    refine ⟨h, rfl, rfl, fun _ _ => rfl, ?_⟩
    have hfew := h.busesFew
    simpa [commitMonitors, withoutBus] using hfew
  | cons entry rest ih =>
    intro c h hstaged
    obtain ⟨player, snapshot⟩ := entry
    obtain ⟨hnamed, hother, hrest⟩ := hstaged.tail
    rcases commitMonitors_cons h hnamed snapshot rest with
      ⟨hnew, hfull, heq⟩ | ⟨hfits, c', heq, hone⟩
    · rw [heq]
      refine ⟨h, rfl, rfl, fun _ _ => rfl, ?_⟩
      simp [withoutBus, hnew]
      omega
    · obtain ⟨hkept, hdraft, htransport, hothers, hend⟩ := ih c' hone.registries hrest
      rw [heq]
      refine ⟨hkept, hdraft.trans hone.draft, htransport.trans hone.transport, ?_, ?_⟩
      · intro other hmem
        simp only [List.map_cons, List.mem_cons, not_or] at hmem
        rw [hothers other hmem.2, hone.others other hmem.1]
      · rw [hend, hone.withoutBus hother, hone.length]
        by_cases hmade : player ∈ c.monitors.players
        · simp [withoutBus, hmade]
        · simp only [withoutBus, hmade, if_neg, not_false_eq_true, decide_true,
            List.filter_cons_of_pos, List.length_cons]
          omega

lemma draft_bumpMonitorRevision {revision : UInt64}
    (h : c.bumpMonitorRevision player = some (c', revision)) : c'.draft = c.draft := by
  unfold bumpMonitorRevision at h
  split at h
  · obtain ⟨rfl, -⟩ := Prod.mk.inj (Option.some.inj h)
    rfl
  · split_ifs at h
    obtain ⟨rfl, -⟩ := Prod.mk.inj (Option.some.inj h)
    rfl

lemma draft_mutateMonitorBus (field : String) (value : S.Double) (current : UInt64) :
    (c.mutateMonitorBus player field value current).state.draft = c.draft := by
  unfold mutateMonitorBus
  cases c.monitors.getOrCreate player with
  | none => rfl
  | some buses =>
    cases monitorWrite (S := S) field value with
    | none => rfl
    | some f =>
      simp only
      cases hbump : bumpMonitorRevision
          { c with monitors := buses.write player f, revision := c.revision + 1 } player with
      | none => rfl
      | some out =>
        obtain ⟨c', revision⟩ := out
        have hdraft := draft_bumpMonitorRevision hbump
        exact hdraft

lemma Kept.congr (h : c.Kept) (hbuses : c'.monitors = c.monitors)
    (hrevisions : c'.monitorRevisions = c.monitorRevisions) (hdraft : c'.draft = c.draft) :
    c'.Kept :=
  ⟨h.registries.congr hbuses hrevisions, hdraft ▸ h.staged⟩

lemma Kept.evaluate (h : c.Kept) (command : CoreCommand S) : (command.evaluate c).state.Kept := by
  cases command with
  | transport key expected action value now =>
    simp only [CoreCommand.evaluate, evaluateTransport]
    split_ifs
    · exact h
    · exact h.congr rfl rfl rfl
    · cases c.actOnTransport action value now <;> exact h.congr rfl rfl rfl
  | monitor key expected player field value =>
    simp only [CoreCommand.evaluate, evaluateMonitor]
    split_ifs
    · exact h
    · exact h.congr rfl rfl rfl
    · exact h.congr rfl rfl rfl
    · refine ⟨registries_mutateMonitorBus h.registries field value _, ?_⟩
      rw [draft_mutateMonitorBus]
      exact h.staged

lemma Kept.perform (h : c.Kept) (command : CoreCommand S) : (command.perform c).1.Kept := by
  cases hfind : c.findDedup command.key with
  | some cached =>
    rw [c.perform_of_found hfind]
    exact h.congr rfl rfl rfl
  | none =>
    rw [c.perform_of_new hfind]
    simp only [Outcome.conclude, rememberDedup]
    split_ifs
    · exact h.evaluate command
    · exact (h.evaluate command).congr rfl rfl rfl

lemma stagedKept_nil : StagedKept ([] : List (String × MonitorBus S)) := ⟨by simp, by simp⟩

lemma RegistriesKept.resetDraft (h : c.RegistriesKept)
    (hbuses : c'.monitors = c.monitors) (hrevisions : c'.monitorRevisions = c.monitorRevisions) :
    c'.resetDraft.Kept :=
  ⟨h.congr hbuses hrevisions, stagedKept_nil⟩

lemma Kept.stageMonitor (h : c.Kept) (snapshot : MonitorBus S) :
    (c.stageMonitor player snapshot).1.Kept := by
  unfold CoreControlState.stageMonitor
  by_cases hrefused : c.draft.active = false ∨ player = "" ∨ 64 < player.utf8ByteSize
  · rw [if_pos hrefused]
    exact h
  rw [if_neg hrefused]
  push Not at hrefused
  obtain ⟨-, hnamed⟩ := hrefused
  by_cases hstaged : player ∈ c.draft.monitors.map Prod.fst
  · rw [if_pos hstaged]
    have hplayers : ((c.draft.monitors.map fun entry =>
        if entry.1 = player then (entry.1, snapshot) else entry).map Prod.fst) =
        c.draft.monitors.map Prod.fst :=
      players_write c.draft.monitors player fun _ => snapshot
    refine ⟨h.registries.congr rfl rfl, ?_, ?_⟩
    · simp only [hplayers]
      exact h.staged.nodup
    · simp only [hplayers]
      exact h.staged.named
  · rw [if_neg hstaged]
    split_ifs
    · exact h
    · refine ⟨h.registries.congr rfl rfl, ?_, ?_⟩
      · rw [List.map_append, List.nodup_append]
        refine ⟨h.staged.nodup, by simp, ?_⟩
        rintro other hother last hlast rfl
        obtain rfl : other = player := List.mem_singleton.mp hlast
        exact hstaged hother
      · intro other hother
        rw [List.map_append, List.mem_append] at hother
        rcases hother with hother | hother
        · exact h.staged.named other hother
        · obtain rfl : other = player := List.mem_singleton.mp hother
          exact hnamed

lemma registries_commitTransport (h : c.RegistriesKept) (sought started : ℤ) :
    (c.commitTransport sought started).RegistriesKept := by
  unfold commitTransport
  by_cases htransport : c.draft.hasTransport = true
  · rw [if_pos htransport]
    exact h.congr rfl rfl
  · rw [if_neg htransport]
    exact h

lemma Kept.after (h : c.Kept) (call : CoreCall S) : (call.after c).Kept := by
  cases call with
  | beginSnapshot externalRevision =>
    simp only [CoreCall.after, beginSnapshot]
    split_ifs
    · exact h
    · exact ⟨h.registries.congr rfl rfl, stagedKept_nil⟩
  | stageTransport bpm seconds running =>
    simp only [CoreCall.after, stageTransport]
    split_ifs
    · exact h
    · exact ⟨h.registries.congr rfl rfl, h.staged⟩
  | stageMonitor player snapshot => exact h.stageMonitor snapshot
  | commitSnapshot sought started =>
    have hmonitors := (commitMonitors_spec c.draft.monitors (c.commitTransport sought started)
      (registries_commitTransport h.registries sought started) h.staged).1
    simp only [CoreCall.after, commitSnapshot]
    split_ifs
    · exact h
    · exact h.registries.resetDraft rfl rfl
    · exact h.registries.resetDraft rfl rfl
    · split <;> rename_i hcommit <;> rw [hcommit] at hmonitors
      · exact hmonitors.resetDraft rfl rfl
      · exact hmonitors.resetDraft rfl rfl
  | abortSnapshot => exact h.registries.resetDraft rfl rfl
  | clockWritten clock => exact h.congr rfl rfl rfl
  | busCreated player =>
    simp only [CoreCall.after]
    cases hbuses : c.monitors.getOrCreate player with
    | none => exact h
    | some buses =>
      obtain ⟨-, hplayers, hfew⟩ := of_getOrCreate hbuses
      exact ⟨h.registries.withMonitors hplayers (hfew h.registries.busesFew), h.staged⟩
  | busWritten player f =>
    refine ⟨h.registries.withMonitors ?_ ?_, h.staged⟩
    · rw [players_write]
      exact List.Subset.refl _
    · rw [write, List.length_map]
      exact h.registries.busesFew

end CoreControlState

/-- **The registries are kept in every state of every run.** -/
lemma CoreRun.kept {sampleRate bpm : S.Double} {now : ℤ} {actions : List (CoreAction S)}
    {s : CoreRun S} (hrun : Reaches CoreRun.step Always (.start sampleRate bpm now) actions s) :
    s.core.Kept := by
  refine hrun.invariant (I := fun s => s.core.Kept) ?_ ?_
  · exact ⟨⟨by simp [CoreRun.start, CoreControlState.start], List.nodup_nil,
      List.nil_subset _⟩, CoreControlState.stagedKept_nil⟩
  · rintro t action u h - hstep
    obtain rfl : t.after action = u := Option.some.inj hstep
    cases action with
    | command command => exact h.perform command
    | call call => exact h.after call

/-! ## All or nothing -/

inductive CoreMutation (S : NativeFloats)
  | command (command : CoreCommand S)
  | commitSnapshot (sought started : ℤ)

def CoreMutation.perform (c : CoreControlState S) :
    CoreMutation S → CoreControlState S × CoreMutationResult
  | .command call => call.perform c
  | .commitSnapshot sought started => c.commitSnapshot sought started

namespace CoreControlState

/-- If the mutation is not applied, then nothing that can be seen is changed. -/
def AllOrNothing (c : CoreControlState S) (mutation : CoreMutation S) : Prop :=
  (mutation.perform c).2.status ≠ .applied → (mutation.perform c).1.view = c.view

/-- A field of a bus that is not there, or a level that is not finite. -/
def NoSuchWrite (field : String) (value : S.Double) : Prop := field ≠ "muted" ∧ field ≠ "master" ∧
    (MonitorChannel.parse field = none ∨ S.double.finite value = false)

/-- The bus of a player is made for a write that is then refused. -/
@[mk_iff]
structure MakesBus (c : CoreControlState S) (key : CommandKey) (expected : UInt64)
    (player field : String) (value : S.Double) : Prop where
  unseen : c.findDedup key = none
  idle : c.draft.active = false
  expected : expected = coreAnyRevision ∨ expected = c.monitorRevision player
  named : player ≠ "" ∧ player.utf8ByteSize ≤ 64
  unmade : player ∉ c.monitors.players
  room : c.monitors.length < MonitorBusRegistry.capacity
  refused : NoSuchWrite field value

/-- The commit of a draft stops after something has been written. -/
@[mk_iff]
structure CommitsPartly (c : CoreControlState S) : Prop where
  active : c.draft.active = true
  newer : c.externalRevision < c.draft.externalRevision
  full : MonitorBusRegistry.capacity < c.monitors.length + (c.withoutBus c.draft.monitors).length
  written : c.draft.hasTransport = true ∨ ∃ entry ∈ c.draft.monitors.head?,
    entry.1 ∈ c.monitors.players ∨ c.monitors.length < MonitorBusRegistry.capacity

/-- The mutations that are refused with something already written. -/
def LeavesTraces (c : CoreControlState S) : CoreMutation S → Prop
  | .command (CoreCommand.transport _ _ _ _ _) => False
  | .command (CoreCommand.monitor key expected player field value) =>
    c.MakesBus key expected player field value
  | .commitSnapshot _ _ => c.CommitsPartly

variable {c : CoreControlState S} {player : String}

lemma monitorWrite_eq_none {field : String} {value : S.Double} :
    monitorWrite field value = none ↔ NoSuchWrite field value := by
  unfold monitorWrite NoSuchWrite
  by_cases hmuted : field = "muted"
  · simp [hmuted]
  by_cases hmaster : field = "master"
  · simp [hmaster]
  rw [if_neg hmuted, if_neg hmaster]
  cases MonitorChannel.parse field with
  | none => simp [hmuted, hmaster]
  | some channel => cases S.double.finite value <;> simp [hmuted, hmaster]

lemma allOrNothing_of_new {command : CoreCommand S} (h : c.findDedup command.key = none) :
    c.AllOrNothing (.command command) ↔
      ((command.evaluate c).status ≠ .applied → (command.evaluate c).state.view = c.view) := by
  unfold AllOrNothing CoreMutation.perform
  simp only [c.perform_of_new h, Outcome.conclude, currentResult, rememberDedup]
  split_ifs <;> exact Iff.rfl

lemma view_evaluateTransport {expected : UInt64} {action : CoreTransportAction} {value : S.Double}
    {now : ℤ} (h : (c.evaluateTransport expected action value now).status ≠ .applied) :
    (c.evaluateTransport expected action value now).state.view = c.view := by
  unfold evaluateTransport at h ⊢
  split_ifs at h ⊢
  · rfl
  · rfl
  · cases hact : c.actOnTransport action value now with
    | none => rfl
    | some transport =>
      simp only [hact] at h
      exact absurd rfl h

lemma view_mutateMonitorBus_of_bus (h : c.RegistriesKept) {buses : MonitorBusRegistry S}
    (hbuses : c.monitors.getOrCreate player = some buses) (field : String) (value : S.Double)
    (current : UInt64) :
    ((c.mutateMonitorBus player field value current).status ≠ .applied →
        (c.mutateMonitorBus player field value current).state.view = c.view) ↔
      ¬ (buses ≠ c.monitors ∧ NoSuchWrite field value) := by
  unfold mutateMonitorBus
  rw [hbuses, ← monitorWrite_eq_none]
  cases hwrite : monitorWrite (S := S) field value with
  | none =>
    simp only [ne_eq, reduceCtorEq, not_false_eq_true, forall_const, and_true, not_not]
    constructor
    · intro hview
      exact congrArg View.monitors hview
    · rintro rfl
      rfl
  | some f =>
    obtain ⟨hwritten, hmade⟩ := h.written
      (w := { c with monitors := buses.write player f, revision := c.revision + 1 }) hbuses rfl rfl
    obtain ⟨revisions, hbump, -, -, -⟩ := hwritten.bump hmade
    simp [hbump]

lemma view_mutateMonitorBus (h : c.RegistriesKept) (hnamed : player ≠ "" ∧ player.utf8ByteSize ≤ 64)
    (field : String) (value : S.Double) (current : UInt64) :
    ((c.mutateMonitorBus player field value current).status ≠ .applied →
        (c.mutateMonitorBus player field value current).state.view = c.view) ↔
      ¬ (player ∉ c.monitors.players ∧ c.monitors.length < MonitorBusRegistry.capacity ∧
        NoSuchWrite field value) := by
  rcases c.monitors.getOrCreate_cases player hnamed with
    ⟨hmade, heq⟩ | ⟨hnew, hroom, heq⟩ | ⟨hnew, hfull, heq⟩
  · rw [view_mutateMonitorBus_of_bus h heq]
    simp [hmade]
  · rw [view_mutateMonitorBus_of_bus h heq]
    simp [hnew, hroom]
  · have hroom : ¬ c.monitors.length < MonitorBusRegistry.capacity := by omega
    simp only [hroom, false_and, and_false, not_false_eq_true, iff_true]
    intro _
    unfold mutateMonitorBus
    rw [heq]
    rfl

lemma allOrNothing_monitor (h : c.RegistriesKept) (key : CommandKey) (expected : UInt64)
    (field : String) (value : S.Double) :
    c.AllOrNothing (.command (.monitor key expected player field value)) ↔
      ¬ c.MakesBus key expected player field value := by
  rw [makesBus_iff]
  cases hfind : c.findDedup key with
  | some cached =>
    simp only [reduceCtorEq, false_and, not_false_eq_true, iff_true]
    intro _
    have hfound : c.findDedup (CoreCommand.monitor key expected player field value).key ≠ none := by
      rw [CoreCommand.key, hfind]
      simp
    exact c.view_of_found hfound
  | none =>
    rw [allOrNothing_of_new hfind]
    simp only [CoreCommand.evaluate, evaluateMonitor, true_and]
    by_cases hactive : c.draft.active = true
    · simp [hactive]
    rw [if_neg hactive]
    by_cases hconflict : expected ≠ coreAnyRevision ∧ expected ≠ c.monitorRevision player
    · rw [if_pos hconflict]
      simp [hconflict, view, countConflict]
      rfl
    rw [if_neg hconflict]
    have hexpected : expected = coreAnyRevision ∨ expected = c.monitorRevision player := by
      by_contra hneither
      exact hconflict (not_or.mp hneither)
    by_cases hname : player = "" ∨ 64 < player.utf8ByteSize
    · rw [if_pos hname]
      have hunnamed : ¬ (player ≠ "" ∧ player.utf8ByteSize ≤ 64) := by
        rintro ⟨hne, hsize⟩
        rcases hname with hempty | hlong
        · exact hne hempty
        · omega
      simp only [hunnamed, false_and, and_false, not_false_eq_true, iff_true]
      intro _
      rfl
    rw [if_neg hname]
    push Not at hname
    rw [view_mutateMonitorBus h hname]
    simp only [Bool.not_eq_true] at hactive
    simp only [hactive, hexpected, true_and, and_iff_right hname]

/-! ## Commits -/

lemma view_transportRevision_ne {c' : CoreControlState S}
    (h : c'.transportRevision = c.transportRevision + 1) : c'.view ≠ c.view := by
  intro hview
  have hsame := congrArg View.transportRevision hview
  simp only [view, h] at hsame
  simp at hsame

lemma view_monitorRevision_ne {c' : CoreControlState S}
    (h : c'.monitorRevision player = c.monitorRevision player + 1) : c'.view ≠ c.view := by
  intro hview
  have hsame := congrFun (congrArg View.monitorRevision hview) player
  simp only [view, h] at hsame
  simp at hsame

/-- A commit that comes to an exception has written something if and only if there was a transport to
write, or a bus for the first monitor. -/
lemma view_commitMonitors (h : c.Kept) (sought started : ℤ)
    (hend : (commitMonitors c.draft.monitors (c.commitTransport sought started)).2 = false) :
    (commitMonitors c.draft.monitors (c.commitTransport sought started)).1.view = c.view ↔
      ¬ (c.draft.hasTransport = true ∨ ∃ entry ∈ c.draft.monitors.head?,
        entry.1 ∈ c.monitors.players ∨ c.monitors.length < MonitorBusRegistry.capacity) := by
  obtain ⟨-, -, htransport, -, -⟩ := commitMonitors_spec c.draft.monitors
    (c.commitTransport sought started) (registries_commitTransport h.registries sought started) h.staged
  by_cases hhas : c.draft.hasTransport = true
  · have hraised : (c.commitTransport sought started).transportRevision =
        c.transportRevision + 1 := by
      rw [commitTransport, if_pos hhas]
    simp only [hhas, true_or, not_true_eq_false, iff_false]
    exact view_transportRevision_ne (htransport.trans hraised)
  have hsame : c.commitTransport sought started = c := by
    rw [commitTransport, if_neg hhas]
  rw [hsame] at hend htransport ⊢
  simp only [hhas, Bool.false_eq_true, false_or]
  have hstaged := h.staged
  cases hmonitors : c.draft.monitors with
  | nil =>
    rw [hmonitors] at hend
    exact absurd hend (by simp [commitMonitors])
  | cons entry rest =>
    rw [hmonitors] at hstaged
    obtain ⟨player, snapshot⟩ := entry
    obtain ⟨hnamed, hother, hrest⟩ := hstaged.tail
    simp only [List.head?_cons, Option.mem_some_iff, exists_eq_left']
    rcases commitMonitors_cons h.registries hnamed snapshot rest with
      ⟨hnew, hfull, heq⟩ | ⟨hfits, c', heq, hone⟩
    · rw [heq]
      simp only [hnew, false_or, not_lt, hfull]
    · simp only [hfits, not_true_eq_false, iff_false, heq]
      obtain ⟨-, -, -, hothers, -⟩ := commitMonitors_spec rest c' hone.registries hrest
      exact view_monitorRevision_ne ((hothers player hother).trans hone.raised)

lemma allOrNothing_commitSnapshot (h : c.Kept) (sought started : ℤ) :
    c.AllOrNothing (.commitSnapshot sought started) ↔ ¬ c.CommitsPartly := by
  rw [commitsPartly_iff]
  unfold AllOrNothing CoreMutation.perform
  simp only [commitSnapshot]
  by_cases hactive : c.draft.active = true
  · rw [if_neg (by simp [hactive])]
    by_cases hstale : c.draft.externalRevision < c.externalRevision
    · rw [if_pos hstale]
      have hnewer : ¬ c.externalRevision < c.draft.externalRevision := by
        rw [UInt64.not_lt]
        exact UInt64.le_of_lt hstale
      simp only [hnewer, false_and, and_false, not_false_eq_true, iff_true]
      intro _
      rfl
    rw [if_neg hstale]
    by_cases hequal : c.draft.externalRevision = c.externalRevision
    · rw [if_pos hequal]
      have hnewer : ¬ c.externalRevision < c.draft.externalRevision := by
        rw [hequal]
        exact UInt64.lt_irrefl _
      simp only [hnewer, false_and, and_false, not_false_eq_true, iff_true]
      intro _
      rfl
    rw [if_neg hequal]
    have hnewer : c.externalRevision < c.draft.externalRevision := by
      rcases UInt64.lt_or_eq_of_le (UInt64.not_lt.mp hstale) with hlt | heq
      · exact hlt
      · exact absurd heq.symm hequal
    have hlength : (c.commitTransport sought started).monitors = c.monitors := by
      unfold commitTransport
      split_ifs <;> rfl
    obtain ⟨-, -, -, -, hend⟩ := commitMonitors_spec c.draft.monitors
      (c.commitTransport sought started) (registries_commitTransport h.registries sought started)
      h.staged
    rw [withoutBus, hlength] at hend
    have hview := view_commitMonitors h sought started
    cases hcommit : commitMonitors c.draft.monitors (c.commitTransport sought started) with
    | mk c' completed =>
      rw [hcommit] at hend hview
      cases completed with
      | true =>
        have hfits := hend.not.mp (by simp)
        simp only [withoutBus, hfits, false_and, and_false, not_false_eq_true, iff_true]
        intro hrefused
        exact absurd rfl hrefused
      | false =>
        have hfull := hend.mp rfl
        simp only [withoutBus, hactive, hnewer, hfull, true_and]
        rw [← hview rfl]
        simp only [currentResult, ne_eq, reduceCtorEq, not_false_eq_true, forall_const]
        exact Iff.rfl
  · rw [if_pos (by simpa using hactive)]
    simp [hactive]

end CoreControlState

def unknownLevel : CoreMutation .rationals :=
  .command (.monitor ⟨.control, 1⟩ coreAnyRevision "ada" "reverb" (50 : ℚ))

end StageForge
