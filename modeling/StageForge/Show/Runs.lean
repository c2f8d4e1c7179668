import StageForge.Library.TransitionSystem
import StageForge.Show.Restore

/-!
# Runs of a show state

An `ShowAction` is one call that changes a `ShowState`: a mutator, a replica document or an external
event. A call that raises leaves what it has assigned, so a step leads on in any case.
-/

namespace StageForge

open Python TransitionSystem

/-- A platform for examples, on which no text denotes a number. -/
def examplePlatform : Platform where
  print _ := ""
  parseInt _ := none
  parseFloat _ := none
  formatG _ := ""

def exampleClocks : Clocks := { now := 0, event := 0, snapshot := 0, wall := 0 }

inductive ShowAction
  | edit (operation : Mutator) (expected expectedResource : Option Int)
  | applyReplica (snapshot : Value)
  | externalEvent (category text : String) (payload : Entries)

variable (P : Platform)

/-- The state after a call, and what the call returns. -/
def ShowAction.perform (clocks : Clocks) (s : ShowState) : ShowAction → ShowState × Except Failure Entries
  | .edit operation expected expectedResource =>
    (operation.call P clocks).perform clocks expected expectedResource s
  | .applyReplica snapshot => s.applyReplicaSnapshot P clocks snapshot
  | .externalEvent category text payload =>
    (s.recordExternalEvent clocks category text payload, .ok [])

def ShowAction.Returns (clocks : Clocks) (s : ShowState) (action : ShowAction) : Prop :=
  ∃ doc, (action.perform P clocks s).2 = .ok doc

instance (clocks : Clocks) (s : ShowState) (action : ShowAction) :
    Decidable (action.Returns P clocks s) :=
  decidable_of_iff ((action.perform P clocks s).2.toOption.isSome = true) <| by
    unfold ShowAction.Returns
    cases (action.perform P clocks s).2 with
    | error failure => simp [Except.toOption]
    | ok doc => simp [Except.toOption]

abbrev TimedShowAction := Clocks × ShowAction

def step (s : ShowState) (action : TimedShowAction) : Option ShowState :=
  some (action.2.perform P action.1 s).1

/-- The states of a program that starts from any document. -/
def Reachable (s : ShowState) : Prop :=
  ∃ clocks snapshot start actions, ShowState.load P clocks snapshot = .ok start ∧
    Reaches (step P) Always start actions s

variable {P}

lemma reachable_of_run (actions : List TimedShowAction) {s : ShowState}
    (h : run (step P) (ShowState.initial exampleClocks) actions = some s) : Reachable P s := by
  refine ⟨exampleClocks, .none, ShowState.initial exampleClocks, actions, ?_,
    reaches_always_of_run h⟩
  simp [ShowState.load, Value.truthy, pure, Except.pure]

end StageForge
