import StageForge.Library.TransitionSystem
import StageForge.Native.CoreState

/-!
# Which commands the control state answers as duplicates

The replay memory of `CoreControlState` is a ring of 256 cells, shared by both kinds of commands and
by all domains. It remembers what was answered to every command with an id, also when the command
was refused.
-/

namespace StageForge

open TransitionSystem

/-! ## Runs -/

inductive CoreAction (S : NativeFloats)
  | command (command : CoreCommand S)
  | call (call : CoreCall S)

/-- A control state, and the commands with an id that were looked at, with what they came to. -/
structure CoreRun (S : NativeFloats) where
  core : CoreControlState S
  answered : List DedupEntry

variable {S : NativeFloats}

namespace CoreRun

def start (sampleRate bpm : S.Double) (now : ℤ) : CoreRun S where
  core := .start sampleRate bpm now
  answered := []

def after (s : CoreRun S) : CoreAction S → CoreRun S
  | .command command =>
    let answer := command.perform s.core
    { core := answer.1
      answered := if answer.2.status = .duplicate ∨ command.key.commandId = 0 then s.answered
        else ⟨command.key, answer.2⟩ :: s.answered }
  | .call call => { s with core := call.after s.core }

def step (s : CoreRun S) (action : CoreAction S) : Option (CoreRun S) := some (s.after action)

end CoreRun

/-! ## What a call does to the replay memory -/

namespace CoreControlState

def withDedup (c : CoreControlState S) (dedup : RecentRing DedupEntry 256) : CoreControlState S :=
  { c with dedup := dedup }

lemma dedup_neZero : NeZero 256 := inferInstance

/-- The same state with nothing in its replay memory. -/
def forgotten (c : CoreControlState S) : CoreControlState S :=
  c.withDedup (@RecentRing.empty DedupEntry 256 dedup_neZero)

def Outcome.withDedup (o : Outcome S) (dedup : RecentRing DedupEntry 256) : Outcome S :=
  { o with state := o.state.withDedup dedup }

variable (c : CoreControlState S) {key : CommandKey} {cached : CoreMutationResult}

lemma evaluateTransport_withDedup (expected : UInt64) (action : CoreTransportAction)
    (value : S.Double) (now : ℤ) (dedup : RecentRing DedupEntry 256) :
    (c.withDedup dedup).evaluateTransport expected action value now =
      (c.evaluateTransport expected action value now).withDedup dedup := by
  have haction : (c.withDedup dedup).actOnTransport action value now =
      c.actOnTransport action value now := rfl
  unfold evaluateTransport
  rw [haction, apply_ite (Outcome.withDedup · dedup), apply_ite (Outcome.withDedup · dedup)]
  cases c.actOnTransport action value now <;> rfl

lemma bumpMonitorRevision_withDedup (player : String) (dedup : RecentRing DedupEntry 256) :
    (c.withDedup dedup).bumpMonitorRevision player =
      (c.bumpMonitorRevision player).map fun out => (out.1.withDedup dedup, out.2) := by
  have hsame : (c.withDedup dedup).monitorRevisions = c.monitorRevisions := rfl
  unfold bumpMonitorRevision
  rw [hsame]
  cases c.monitorRevisions.lookup player with
  | some revision => rfl
  | none =>
    by_cases hfull : MonitorBusRegistry.capacity ≤ c.monitorRevisions.length
    · simp only [if_pos hfull, Option.map_none]
    · simp only [if_neg hfull]
      rfl

lemma mutateMonitorBus_withDedup (player field : String) (value : S.Double) (current : UInt64)
    (dedup : RecentRing DedupEntry 256) :
    (c.withDedup dedup).mutateMonitorBus player field value current =
      (c.mutateMonitorBus player field value current).withDedup dedup := by
  have hsame : (c.withDedup dedup).monitors = c.monitors := rfl
  unfold mutateMonitorBus
  rw [hsame]
  cases c.monitors.getOrCreate player with
  | none => rfl
  | some monitors =>
    cases monitorWrite (S := S) field value with
    | none => rfl
    | some f =>
      have hbump := bumpMonitorRevision_withDedup
        { c with monitors := monitors.write player f, revision := c.revision + 1 } player dedup
      simp only [withDedup] at hbump ⊢
      rw [hbump]
      cases bumpMonitorRevision
        { c with monitors := monitors.write player f, revision := c.revision + 1 }
        player <;> rfl

lemma evaluate_withDedup (command : CoreCommand S) (dedup : RecentRing DedupEntry 256) :
    command.evaluate (c.withDedup dedup) = (command.evaluate c).withDedup dedup := by
  cases command with
  | transport key expected action value now =>
    exact c.evaluateTransport_withDedup expected action value now dedup
  | monitor key expected player field value =>
    have hrevision : (c.withDedup dedup).monitorRevision player = c.monitorRevision player := rfl
    simp only [CoreCommand.evaluate, evaluateMonitor]
    rw [hrevision, mutateMonitorBus_withDedup, apply_ite (Outcome.withDedup · dedup),
      apply_ite (Outcome.withDedup · dedup), apply_ite (Outcome.withDedup · dedup)]
    rfl

lemma dedup_evaluate (command : CoreCommand S) : (command.evaluate c).state.dedup = c.dedup := by
  have hsame := congrArg (fun o : Outcome S => o.state.dedup) (c.evaluate_withDedup command c.dedup)
  exact hsame

lemma status_evaluate_ne (command : CoreCommand S) : (command.evaluate c).status ≠ .duplicate := by
  cases command with
  | transport key expected action value now =>
    simp only [CoreCommand.evaluate, evaluateTransport]
    split_ifs
    · simp
    · simp
    · cases c.actOnTransport action value now <;> simp
  | monitor key expected player field value =>
    simp only [CoreCommand.evaluate, evaluateMonitor, mutateMonitorBus]
    split_ifs
    · simp
    · simp
    · simp
    · split
      · simp
      · split
        · simp
        · split <;> simp

variable {command : CoreCommand S}

lemma perform_of_found (h : c.findDedup command.key = some cached) :
    command.perform c = (c.countDuplicate, cached) := by
  rw [CoreCommand.perform_eq, h]

lemma perform_of_new (h : c.findDedup command.key = none) :
    command.perform c = (command.evaluate c).conclude command.key := by
  rw [CoreCommand.perform_eq, h]

lemma status_of_found (h : c.findDedup key = some cached) : cached.status = .duplicate := by
  unfold findDedup at h
  split_ifs at h
  obtain ⟨entry, -, rfl⟩ := Option.map_eq_some_iff.mp h
  rfl

lemma status_perform_iff (command : CoreCommand S) :
    (command.perform c).2.status = .duplicate ↔ c.findDedup command.key ≠ none := by
  cases hfind : c.findDedup command.key with
  | none =>
    rw [c.perform_of_new hfind]
    exact ⟨fun h => absurd h (c.status_evaluate_ne command), fun h => absurd rfl h⟩
  | some cached =>
    rw [c.perform_of_found hfind]
    simpa using c.status_of_found hfind

lemma view_of_found (h : c.findDedup command.key ≠ none) : (command.perform c).1.view = c.view := by
  obtain ⟨cached, hcached⟩ := Option.ne_none_iff_exists'.mp h
  rw [c.perform_of_found hcached]
  rfl

lemma dedup_commitMonitors (staged : List (String × MonitorBus S)) :
    ∀ c : CoreControlState S, (commitMonitors staged c).1.dedup = c.dedup := by
  induction staged with
  | nil => intro c; rfl
  | cons entry rest ih =>
    intro c
    obtain ⟨player, snapshot⟩ := entry
    unfold commitMonitors
    cases c.monitors.getOrCreate player with
    | none => rfl
    | some monitors =>
      simp only
      cases hbump : bumpMonitorRevision
          { c with monitors := monitors.write player fun _ => snapshot.restore } player with
      | none => rfl
      | some out =>
        have hsame := congrArg (Option.map fun out => out.1.dedup) (bumpMonitorRevision_withDedup
          { c with monitors := monitors.write player fun _ => snapshot.restore } player c.dedup)
        simp only [withDedup, hbump, Option.map_some, Option.some.injEq] at hsame
        rw [ih, hsame]

lemma dedup_after (call : CoreCall S) : (call.after c).dedup = c.dedup := by
  cases call with
  | beginSnapshot externalRevision =>
    simp only [CoreCall.after, beginSnapshot]
    split_ifs <;> rfl
  | stageTransport bpm seconds running =>
    simp only [CoreCall.after, stageTransport]
    split_ifs <;> rfl
  | stageMonitor player snapshot =>
    simp only [CoreCall.after, stageMonitor]
    split_ifs <;> rfl
  | commitSnapshot sought started =>
    have htransport : (c.commitTransport sought started).dedup = c.dedup := by
      unfold commitTransport
      split_ifs <;> rfl
    have hmonitors := dedup_commitMonitors c.draft.monitors (c.commitTransport sought started)
    rw [htransport] at hmonitors
    simp only [CoreCall.after, commitSnapshot]
    split_ifs
    · rfl
    · rfl
    · rfl
    · split <;> rename_i hcommit <;> rw [hcommit] at hmonitors <;> exact hmonitors
  | abortSnapshot => rfl
  | clockWritten clock => rfl
  | busCreated player => rfl
  | busWritten player f => rfl

end CoreControlState

/-! ## What the replay memory holds -/

/-- No two entries with one key are fewer than 256 apart. -/
def Spaced : List DedupEntry → Prop
  | [] => True
  | entry :: rest => (∀ e ∈ rest.take 256, e.key ≠ entry.key) ∧ Spaced rest

variable {new rest : List DedupEntry} {entry : DedupEntry}

lemma Spaced.split
    (h : Spaced (new ++ entry :: rest)) : ∀ e ∈ rest.take 256, e.key ≠ entry.key := by
  induction new with
  | nil => exact h.1
  | cons other new ih => exact ih h.2

lemma mem_take_append (entry : DedupEntry) (h : new.length < 256) :
    entry ∈ (new ++ entry :: rest).take 256 := by
  rw [List.take_append, show 256 - new.length = (255 - new.length) + 1 by omega,
    List.take_succ_cons]
  simp

lemma Spaced.alone (h : Spaced (new ++ entry :: rest))
    (hfew : new.countP (fun e => decide (e.key ≠ entry.key)) < 256) :
    (∀ e ∈ new, e.key ≠ entry.key) ∧ new.length < 256 := by
  induction new with
  | nil => simp
  | cons other new ih =>
    rw [List.countP_cons] at hfew
    obtain ⟨halone, hlength⟩ := ih h.2 (by omega)
    have hother : entry.key ≠ other.key := h.1 entry (mem_take_append entry hlength)
    have hcount : new.countP (fun e => decide (e.key ≠ entry.key)) = new.length :=
      List.countP_eq_length.mpr fun e he => by simpa using halone e he
    rw [hcount, if_pos (by simpa using hother.symm)] at hfew
    refine ⟨?_, by simpa using hfew⟩
    intro e he
    rcases List.mem_cons.mp he with rfl | he
    · exact hother.symm
    · exact halone e he

lemma Spaced.find?_eq {log : List DedupEntry} (h : Spaced log) (hentry : entry ∈ log.take 256) :
    log.find? (fun e => decide (e.key = entry.key)) = some entry := by
  have hsome : (log.find? fun e => decide (e.key = entry.key)).isSome = true :=
    List.find?_isSome.mpr ⟨entry, List.mem_of_mem_take hentry, by simp⟩
  obtain ⟨newest, hnewest⟩ := Option.isSome_iff_exists.mp hsome
  obtain ⟨hkey, new, rest, rfl, hnew⟩ := List.find?_eq_some_iff_append.mp hnewest
  rw [List.take_append, List.mem_append] at hentry
  rcases hentry with hentry | hentry
  · exact absurd (hnew entry (List.mem_of_mem_take hentry)) (by simp)
  · cases hrest : 256 - new.length with
    | zero => simp [hrest] at hentry
    | succ n =>
      rw [hrest, List.take_succ_cons, List.mem_cons] at hentry
      rcases hentry with rfl | hentry
      · exact hnewest
      · have hlate : entry ∈ rest.take 256 := List.take_subset_take_left rest (by omega) hentry
        exact absurd (by simpa using hkey) (h.split entry hlate).symm

namespace CoreRun

variable {s t : CoreRun S} {command first second : CoreCommand S} {sampleRate bpm : S.Double}
  {now : ℤ} {actions before between : List (CoreAction S)}

/-- What the replay memory has to do with the commands of a run. -/
structure Remembers (s : CoreRun S) : Prop where
  holds : s.core.dedup.Holds s.answered
  spaced : Spaced s.answered

lemma Remembers.findDedup_eq_none (h : s.Remembers) {key : CommandKey} (hid : key.commandId ≠ 0) :
    s.core.findDedup key = none ↔ ∀ e ∈ s.answered.take 256, e.key ≠ key := by
  unfold CoreControlState.findDedup
  rw [if_neg hid, Option.map_eq_none_iff, h.holds.find?_eq_none]
  simp

lemma after_command (s : CoreRun S) (command : CoreCommand S) :
    (s.core.findDedup command.key ≠ none ∧
      s.after (.command command) = { s with core := s.core.countDuplicate }) ∨
    (s.core.findDedup command.key = none ∧ s.after (.command command) =
        { core := ((command.evaluate s.core).conclude command.key).1
          answered := if command.key.commandId = 0 then s.answered
            else ⟨command.key, ((command.evaluate s.core).conclude command.key).2⟩ ::
              s.answered }) := by
  cases hfind : s.core.findDedup command.key with
  | some cached =>
    left
    refine ⟨by simp, ?_⟩
    have hstatus := s.core.status_of_found hfind
    simp only [after, s.core.perform_of_found hfind, hstatus, true_or, if_true]
  | none =>
    right
    refine ⟨rfl, ?_⟩
    have hstatus : ((command.evaluate s.core).conclude command.key).2.status ≠ .duplicate :=
      s.core.status_evaluate_ne command
    simp only [after, s.core.perform_of_new hfind, hstatus, false_or]

lemma Remembers.after (h : s.Remembers) (action : CoreAction S) : (s.after action).Remembers := by
  cases action with
  | call call =>
    refine ⟨?_, h.spaced⟩
    simp only [CoreRun.after, s.core.dedup_after call]
    exact h.holds
  | command command =>
    rcases s.after_command command with ⟨-, heq⟩ | ⟨hnew, heq⟩
    · rw [heq]
      exact ⟨h.holds, h.spaced⟩
    · rw [heq]
      simp only [CoreControlState.Outcome.conclude, CoreControlState.rememberDedup]
      by_cases hid : command.key.commandId = 0
      · simp only [if_pos hid]
        refine ⟨?_, h.spaced⟩
        simp only [s.core.dedup_evaluate command]
        exact h.holds
      · simp only [if_neg hid]
        refine ⟨?_, (h.findDedup_eq_none hid).mp hnew, h.spaced⟩
        simp only [s.core.dedup_evaluate command]
        exact h.holds.push _

lemma remembers_start : (start (S := S) sampleRate bpm now).Remembers :=
  ⟨RecentRing.holds_empty, trivial⟩

lemma remembers_of_reaches (hrun : Reaches step Always (start sampleRate bpm now) actions s) :
    s.Remembers :=
  hrun.invariant remembers_start fun _ action _ h _ hstep =>
    Option.some.inj hstep ▸ h.after action

lemma answered_of_reaches (hrun : Reaches step Always s actions t) :
    ∃ new, t.answered = new ++ s.answered := by
  refine hrun.invariant (I := fun t => ∃ new, t.answered = new ++ s.answered) ⟨[], rfl⟩ ?_
  rintro v action w ⟨new, hnew⟩ - hstep
  obtain rfl : v.after action = w := Option.some.inj hstep
  cases action with
  | call call => exact ⟨new, hnew⟩
  | command command =>
    simp only [after]
    split_ifs
    · exact ⟨new, hnew⟩
    · exact ⟨_ :: new, by rw [hnew, List.cons_append]⟩

/-! ## What a duplicate means -/

def AppliedBefore (s : CoreRun S) (key : CommandKey) : Prop :=
  ∃ e ∈ s.answered, e.key = key ∧ e.result.status = .applied

/-- When a command with this key was last looked at, it was refused. -/
def RefusedLast (s : CoreRun S) (key : CommandKey) : Prop :=
  ∃ e, s.answered.find? (fun e => decide (e.key = key)) = some e ∧ e.result.status ≠ .applied

/-- A command is answered, and changes the state, as it would be if none were remembered. -/
def EvaluatedAfresh (c : CoreControlState S) (command : CoreCommand S) : Prop :=
  (command.perform c).2 = (command.perform c.forgotten).2 ∧
    (command.perform c).1.forgotten = (command.perform c.forgotten).1.forgotten

/-- A duplicate was applied before, and a retry of a refused command is looked at again. -/
structure DuplicateMeansDone (s : CoreRun S) (command : CoreCommand S) : Prop where
  applied : (command.perform s.core).2.status = .duplicate → s.AppliedBefore command.key
  retried : s.RefusedLast command.key → EvaluatedAfresh s.core command

lemma findDedup_forgotten (c : CoreControlState S) (key : CommandKey) :
    c.forgotten.findDedup key = none := by
  unfold CoreControlState.findDedup
  split_ifs
  · rfl
  · rw [Option.map_eq_none_iff]
    exact RecentRing.holds_empty.find?_eq_none.mpr (by simp)

lemma evaluatedAfresh_of_new {c : CoreControlState S} (h : c.findDedup command.key = none) :
    EvaluatedAfresh c command := by
  have hforgotten := findDedup_forgotten c command.key
  have hsame := c.evaluate_withDedup command .empty
  rw [EvaluatedAfresh, c.perform_of_new h, c.forgotten.perform_of_new hforgotten]
  unfold CoreControlState.forgotten at hforgotten ⊢
  rw [hsame]
  refine ⟨rfl, ?_⟩
  simp only [CoreControlState.Outcome.conclude, CoreControlState.rememberDedup]
  split_ifs <;> rfl

end CoreRun

open CoreRun

variable {s t : CoreRun S} {sampleRate bpm : S.Double} {now : ℤ}
  {actions before between : List (CoreAction S)}

/-- **Duplicate means already done, unless a refusal is remembered.** In every run, a command with an
id is answered as it should be if and only if none of the last 256 commands that were looked at is
the same command, refused. -/
theorem duplicate_means_done
    (hrun : Reaches CoreRun.step Always (.start sampleRate bpm now) actions s)
    (command : CoreCommand S) (hid : command.key.commandId ≠ 0) :
    s.DuplicateMeansDone command ↔
      ∀ e ∈ s.answered.take 256, e.key = command.key → e.result.status = .applied := by
  have hremembers := remembers_of_reaches hrun
  constructor
  · intro hdone e he hkey
    by_contra hrefused
    have hfound : s.core.findDedup command.key ≠ none := by
      rw [Ne, hremembers.findDedup_eq_none hid]
      exact fun hall => hall e he hkey
    have hlast : s.RefusedLast command.key := ⟨e, hkey ▸ hremembers.spaced.find?_eq he, hrefused⟩
    have hafresh := (hdone.retried hlast).1
    have hforgotten : (command.perform s.core.forgotten).2.status ≠ .duplicate := by
      rw [Ne, s.core.forgotten.status_perform_iff, not_not]
      exact findDedup_forgotten s.core command.key
    rw [← hafresh] at hforgotten
    exact hforgotten ((s.core.status_perform_iff command).mpr hfound)
  · intro hall
    constructor
    · intro hduplicate
      have hfound := (s.core.status_perform_iff command).mp hduplicate
      rw [Ne, hremembers.findDedup_eq_none hid] at hfound
      push Not at hfound
      obtain ⟨e, he, hkey⟩ := hfound
      exact ⟨e, List.mem_of_mem_take he, hkey, hall e he hkey⟩
    · rintro ⟨e, he, hrefused⟩
      refine evaluatedAfresh_of_new ((hremembers.findDedup_eq_none hid).mpr ?_)
      intro other hother hkey
      have hnewest := hremembers.spaced.find?_eq hother
      rw [hkey, he, Option.some.injEq] at hnewest
      rw [hnewest] at hrefused
      exact hrefused (hall other hother hkey)

/-! ## What is applied once -/

namespace CoreRun

/-- A command changes something that can be seen. -/
def Changes (command : CoreCommand S) (c : CoreControlState S) : Prop :=
  (command.perform c).1.view ≠ c.view

def since (t s : CoreRun S) : List DedupEntry :=
  t.answered.take (t.answered.length - s.answered.length)

lemma since_eq {new : List DedupEntry} (h : t.answered = new ++ s.answered) : t.since s = new := by
  rw [since, h, List.length_append, Nat.add_sub_cancel, List.take_left']
  rfl

end CoreRun

/-- **At most one of two commands with the same domain and id is applied**, if between them fewer than
256 commands with another domain or another id were remembered. -/
theorem applied_at_most_once (first second : CoreCommand S)
    (hbefore : Reaches CoreRun.step Always (.start sampleRate bpm now) before s)
    (hkey : second.key = first.key) (hid : first.key.commandId ≠ 0)
    (hbetween : Reaches CoreRun.step Always (s.after (.command first)) between t)
    (hfew : (t.since (s.after (.command first))).countP
      (fun e => decide (e.key ≠ first.key)) < 256) :
    ¬ (Changes first s.core ∧ Changes second t.core) := by
  rintro ⟨hfirst, hsecond⟩
  have hremembers := remembers_of_reaches hbefore
  rcases s.after_command first with ⟨hfound, -⟩ | ⟨-, heq⟩
  · exact hfirst (s.core.view_of_found hfound)
  · rw [if_neg hid] at heq
    obtain ⟨new, hnew⟩ := answered_of_reaches hbetween
    rw [since_eq hnew] at hfew
    have ht : t.Remembers := hbetween.invariant (hremembers.after _) fun _ action _ h _ hstep =>
      Option.some.inj hstep ▸ h.after action
    rw [heq] at hnew
    obtain ⟨-, hlength⟩ := (hnew ▸ ht.spaced).alone hfew
    refine hsecond (t.core.view_of_found ?_)
    rw [Ne, ht.findDedup_eq_none (hkey ▸ hid), hnew, hkey]
    intro hall
    exact hall _ (mem_take_append _ hlength) rfl

/-! ## Runs in which the transport is played -/

def playCommand (key : CommandKey) : CoreCommand .rationals :=
  .transport key coreAnyRevision .play (0 : ℚ) 0

/-- A new control state, in which no float is rounded. -/
def exampleCore : CoreRun .rationals := .start (48000 : ℚ) (120 : ℚ) 0

/-- The transport is played once for every key. -/
def playAll (s : CoreRun .rationals) (keys : List CommandKey) : CoreRun .rationals :=
  keys.foldl (fun s key => s.after (.command (playCommand key))) s

lemma evaluate_playCommand {c : CoreControlState .rationals} (key : CommandKey)
    (hdraft : c.draft.active = false) :
    ((playCommand key).evaluate c).state.draft.active = false ∧
      ((playCommand key).evaluate c).state.revision = c.revision + 1 := by
  simp [playCommand, CoreCommand.evaluate, CoreControlState.evaluateTransport, hdraft,
    CoreControlState.actOnTransport, CoreControlState.countApplied]

lemma after_playCommand {s : CoreRun .rationals} (key : CommandKey) (hremembers : s.Remembers)
    (hid : key.commandId ≠ 0) (hdraft : s.core.draft.active = false)
    (hnew : ∀ e ∈ s.answered.take 256, e.key ≠ key) :
    (s.after (.command (playCommand key))).answered.map DedupEntry.key =
        key :: s.answered.map DedupEntry.key ∧
      (s.after (.command (playCommand key))).core.draft.active = false ∧
      Changes (playCommand key) s.core := by
  have hfind : s.core.findDedup (playCommand key).key = none :=
    (hremembers.findDedup_eq_none hid).mpr hnew
  obtain ⟨hidle, hraised⟩ := evaluate_playCommand key hdraft
  rcases s.after_command (playCommand key) with ⟨hfound, -⟩ | ⟨-, heq⟩
  · exact absurd hfind hfound
  have hidne : ¬ (playCommand key).key.commandId = 0 := hid
  rw [if_neg hidne] at heq
  refine ⟨by rw [heq]; rfl, ?_, ?_⟩
  · rw [heq]
    simp only [CoreControlState.Outcome.conclude, CoreControlState.rememberDedup, if_neg hidne]
    exact hidle
  · intro hsame
    rw [s.core.perform_of_new hfind] at hsame
    have hrevision := congrArg CoreControlState.View.revision hsame
    simp only [CoreControlState.Outcome.conclude, CoreControlState.rememberDedup, if_neg hidne,
      CoreControlState.view, hraised] at hrevision
    simp at hrevision

lemma after_playAll (keys : List CommandKey) :
    ∀ s : CoreRun .rationals, s.Remembers → s.core.draft.active = false →
      (∀ key ∈ keys, key.commandId ≠ 0) →
      (keys.reverse ++ s.answered.map DedupEntry.key).Nodup →
      (playAll s keys).answered.map DedupEntry.key = keys.reverse ++ s.answered.map DedupEntry.key ∧
        (playAll s keys).core.draft.active = false ∧
        ∃ actions, Reaches step Always s actions (playAll s keys) := by
  induction keys with
  | nil => exact fun s _ hdraft _ _ => ⟨rfl, hdraft, [], .refl⟩
  | cons key keys ih =>
    intro s hremembers hdraft hids hnodup
    rw [List.reverse_cons, List.append_assoc, List.singleton_append] at hnodup ⊢
    have hnew : ∀ e ∈ s.answered.take 256, e.key ≠ key := by
      intro e he hkey
      have hrest := (List.nodup_cons.mp (List.nodup_append.mp hnodup).2.1).1
      exact hrest (hkey ▸ List.mem_map_of_mem (List.mem_of_mem_take he))
    obtain ⟨hkeys, hidle, -⟩ :=
      after_playCommand key hremembers (hids key List.mem_cons_self) hdraft hnew
    obtain ⟨hall, hstill, actions, hreaches⟩ := ih (s.after (.command (playCommand key)))
      (hremembers.after _) hidle (fun k hk => hids k (List.mem_cons_of_mem _ hk))
      (by rw [hkeys]; exact hnodup)
    rw [hkeys] at hall
    refine ⟨hall, hstill, [.command (playCommand key)] ++ actions, ?_⟩
    exact (Reaches.snoc .refl trivial rfl).append hreaches

/-- The keys between two commands with id 1: 255 other ids, and id 1 in another domain. -/
def keysBetween : List CommandKey :=
  (List.range 255).map (fun n => ⟨.control, UInt64.ofNat (n + 2)⟩) ++ [⟨.showEvent, 1⟩]

lemma nodup_keysBetween : (keysBetween.reverse ++ [(⟨.control, 1⟩ : CommandKey)]).Nodup := by
  have hbetween : keysBetween.Nodup := by
    refine List.nodup_append.mpr ⟨List.Nodup.map_on ?_ List.nodup_range, List.nodup_singleton _, ?_⟩
    · intro n hn k hk heq
      have hids := congrArg (fun key => key.commandId.toNat) heq
      simp only [UInt64.toNat_ofNat'] at hids
      have hn := List.mem_range.mp hn
      have hk := List.mem_range.mp hk
      omega
    · intro key hkey other hother
      obtain ⟨n, -, rfl⟩ := List.mem_map.mp hkey
      rw [List.mem_singleton.mp hother]
      exact fun heq => CoreCommandDomain.noConfusion (congrArg CommandKey.domain heq)
  have hothers : ∀ key ∈ keysBetween.reverse, key ≠ ⟨.control, 1⟩ := by decide +kernel
  exact List.nodup_append.mpr ⟨List.nodup_reverse.mpr hbetween, List.nodup_singleton _,
    fun key hkey other hother => List.mem_singleton.mp hother ▸ hothers key hkey⟩

/-- **Ids of other domains count.** Fewer than 256 commands with other ids were remembered between two
commands of one domain and id, and both are applied: a command with that id in another domain takes
a cell too. -/
theorem applied_twice : ∃ s between t, Reaches CoreRun.step Always exampleCore [] s ∧
      Reaches CoreRun.step Always (s.after (.command (playCommand ⟨.control, 1⟩))) between t ∧
      (t.since (s.after (.command (playCommand ⟨.control, 1⟩)))).countP
        (fun e => decide (e.key.commandId ≠ 1)) < 256 ∧
      Changes (playCommand ⟨.control, 1⟩) s.core ∧ Changes (playCommand ⟨.control, 1⟩) t.core := by
  have hstart : exampleCore.Remembers := remembers_start
  obtain ⟨hone, hidle, hfirst⟩ := after_playCommand ⟨.control, 1⟩ hstart
    (by decide) rfl (by simp [exampleCore, CoreRun.start])
  obtain ⟨hkeys, hstill, between, hbetween⟩ := after_playAll keysBetween
    (exampleCore.after (.command (playCommand ⟨.control, 1⟩))) (hstart.after _) hidle
    (by decide +kernel) (by rw [hone]; exact nodup_keysBetween)
  have ht : (playAll (exampleCore.after (.command (playCommand ⟨.control, 1⟩)))
      keysBetween).Remembers := hbetween.invariant (hstart.after _) fun _ action _ h _ hstep =>
    Option.some.inj hstep ▸ h.after action
  refine ⟨exampleCore, between, _, .refl, hbetween, ?_, hfirst,
    (after_playCommand ⟨.control, 1⟩ ht (by decide) hstill ?_).2.2⟩
  · obtain ⟨new, hnew⟩ := answered_of_reaches hbetween
    rw [since_eq hnew]
    rw [hnew, List.map_append] at hkeys
    have hcount : new.countP (fun e => decide (e.key.commandId ≠ 1)) =
        (new.map DedupEntry.key).countP (fun key => decide (key.commandId ≠ 1)) := by
      rw [List.countP_map]
      rfl
    rw [hcount, List.append_cancel_right hkeys]
    decide +kernel
  · intro e he
    have hmem := List.mem_map_of_mem (f := DedupEntry.key) he
    rw [List.map_take, hkeys, hone] at hmem
    have hothers : ∀ key ∈ (keysBetween.reverse ++
        (⟨.control, 1⟩ :: exampleCore.answered.map DedupEntry.key)).take 256,
        key ≠ (⟨.control, 1⟩ : CommandKey) := by
      decide +kernel
    exact hothers e.key hmem

theorem applied_at_most_once_play : ¬ (Changes (playCommand ⟨.control, 1⟩) exampleCore.core ∧
      Changes (playCommand ⟨.control, 1⟩)
        (exampleCore.after (.command (playCommand ⟨.control, 1⟩))).core) :=
  applied_at_most_once (playCommand ⟨.control, 1⟩) (playCommand ⟨.control, 1⟩) .refl rfl (by decide) .refl
    (by decide +kernel)

/-- A run in which a command is refused while a snapshot is drafted. -/
def refusedRun : List (CoreAction .rationals) :=
  [.call (.beginSnapshot 1), .command (playCommand ⟨.control, 7⟩), .call .abortSnapshot]

def refusedEntries : List DedupEntry := (refusedRun.foldl CoreRun.after exampleCore).answered

/-- **A refused command is lost.** It is answered as a duplicate when it is sent again, though it was
never applied and nothing stands in its way any more. -/
theorem refused_command_lost : ∃ s, Reaches CoreRun.step Always exampleCore refusedRun s ∧
      ((playCommand ⟨.control, 7⟩).perform s.core).2.status = .duplicate ∧
      ¬ s.DuplicateMeansDone (playCommand ⟨.control, 7⟩) := by
  have hrun : Reaches CoreRun.step Always exampleCore refusedRun _ := reaches_always_of_run rfl
  refine ⟨_, hrun, by decide +kernel, ?_⟩
  intro hdone
  obtain ⟨e, he, -, happlied⟩ := hdone.applied (by decide +kernel)
  have hnever : ∀ e ∈ refusedEntries, e.result.status ≠ .applied := by decide +kernel
  exact hnever e he happlied

theorem duplicate_means_done_play :
    (exampleCore.after (.command (playCommand ⟨.control, 7⟩))).DuplicateMeansDone
      (playCommand ⟨.control, 7⟩) :=
  (duplicate_means_done (.snoc .refl trivial rfl) (playCommand ⟨.control, 7⟩) (by decide)).mpr
    (by decide +kernel)

end StageForge
