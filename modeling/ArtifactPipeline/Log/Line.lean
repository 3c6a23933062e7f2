import ArtifactPipeline.Log.Level
import ArtifactPipeline.Run.Session

set_option autoImplicit false

namespace ArtifactPipeline

structure LogLine where
  level : LogLevel
  source : String
  fields : List String
  deriving DecidableEq, Repr

namespace LogLine

def of (source : String) (level : LogLevel) (fields : List String) : LogLine :=
  ⟨level, source, "message" :: fields⟩

def program := of "pipedag"

def pipeline := of "pipedag::pipeline"

def expansion := of "pipedag::matrix::expander"

def registry := of "pipedag::dag::registry"

def planning := of "pipedag::dag::scheduler"

def freshness := of "pipedag::dag::staleness"

def running := of "pipedag::engine::runtime"

def processes := of "pipedag::exec::task_runner"

end LogLine

def Event.line : Event → LogLine
  | .planned _ => .planning .debug ["nodes"]
  | .started _ => .running .info ["targets", "nodes"]
  | .upToDate _ => .running .debug ["node"]
  | .building _ => .running .info ["node", "commands"]
  | .called _ => .processes .info ["node", "program"]
  | .commandEnded _ _ => .processes .debug ["node", "program", "exit_code"]
  | .commandFailed _ _ => .running .error ["node", "program", "status"]
  | .creatingDirectory _ => .running .info ["node"]
  | .alreadyLinked _ => .running .debug ["node"]
  | .linking _ => .running .info ["node", "link_target"]
  | .leftoverUnknown _ => .running .warn ["node", "error"]
  | .leftoverRemoved _ => .running .warn ["node"]
  | .leftoverKept _ => .running .error ["node", "error"]
  | .failedToo _ => .running .warn ["node", "error"]
  | .taskCrashed => .running .error ["error"]
  | .aborted => .running .error ["error", "completed"]
  | .completedBefore _ => .running .info ["node"]
  | .finished false => .running .info ["executed", "skipped"]
  | .finished true => .running .info ["executed", "skipped", "jobs"]
  | .dryRunEnded => .running .debug []

def Verdicts.lines (verdicts : Verdicts) : List LogLine :=
  verdicts.memo.map (fun _ => .freshness .trace ["node", "dirty"]) ++
    verdicts.newerMatches.map fun _ => .freshness .trace ["node", "prerequisite"]

def Session.lines {W : Type} (session : Session W) : List LogLine :=
  session.trace.map Event.line ++ session.verdicts.lines

end ArtifactPipeline
