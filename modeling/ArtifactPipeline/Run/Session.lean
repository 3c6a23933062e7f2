import ArtifactPipeline.Artifact
import ArtifactPipeline.Failure
import ArtifactPipeline.Freshness
import ArtifactPipeline.Plan

set_option autoImplicit false

namespace ArtifactPipeline

structure Invocation where
  node : NodeId
  kind : ArtifactKind
  command : Command
  deriving DecidableEq, Repr

inductive Reply where
  | success
  | exited (status : Int)
  | refused (failure : Failure)
  | crashed
  deriving DecidableEq, Repr

structure Executor (W : Type) where
  execute : Invocation → W → Reply × W

inductive TaskResult where
  | succeeded
  | failed (failure : Failure)
  | crashed
  deriving DecidableEq, Repr

structure Report where
  executed : List NodeId
  skipped : List NodeId
  deriving DecidableEq, Repr

def Report.empty : Report := ⟨[], []⟩

inductive Event where
  | planned (nodes : Nat)
  | started (targets : List NodeId)
  | upToDate (id : NodeId)
  | building (id : NodeId)
  | called (invocation : Invocation)
  | commandEnded (id : NodeId) (status : Int)
  | commandFailed (id : NodeId) (status : Int)
  | creatingDirectory (id : NodeId)
  | alreadyLinked (id : NodeId)
  | linking (id : NodeId)
  | leftoverUnknown (id : NodeId)
  | leftoverRemoved (id : NodeId)
  | leftoverKept (id : NodeId)
  | failedToo (id : NodeId)
  | taskCrashed
  | aborted
  | completedBefore (id : NodeId)
  | finished (sideBySide : Bool)
  | dryRunEnded
  deriving DecidableEq, Repr

inductive Outcome where
  | completed (report : Report)
  | failed (failure : Failure)
  | crashed
  deriving DecidableEq, Repr

structure Session (W : Type) where
  world : W
  states : NodeStates
  verdicts : Verdicts
  report : Report
  trace : List Event

namespace Session

variable {W : Type}

def start (world : W) (states : NodeStates) : Session W :=
  ⟨world, states, .none, .empty, []⟩

def note (session : Session W) (event : Event) : Session W :=
  { session with trace := session.trace ++ [event] }

def noteAll (session : Session W) (events : List Event) : Session W :=
  { session with trace := session.trace ++ events }

def move (session : Session W) (id : NodeId) (state : NodeState) : Except Failure (Session W) :=
  match session.states.transition id state with
  | .ok states => .ok { session with states }
  | .error failure => .error failure

def ask [Disk W] (registry : Registry) (session : Session W) (id : NodeId) :
    Except Failure Bool × Session W :=
  let (answer, verdicts) := Freshness.isDirty registry session.world session.verdicts id
  (answer, { session with verdicts })

def reportSkipped (session : Session W) (id : NodeId) : Session W :=
  { session.note (.upToDate id) with
    report := { session.report with skipped := session.report.skipped ++ [id] } }

def reportExecuted (session : Session W) (id : NodeId) : Session W :=
  { session with report := { session.report with executed := session.report.executed ++ [id] } }

def abort (session : Session W) : Session W :=
  session.noteAll (.aborted :: session.report.executed.map .completedBefore)

end Session

end ArtifactPipeline
