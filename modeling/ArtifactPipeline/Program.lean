import ArtifactPipeline.Config.Check
import ArtifactPipeline.Host.Process
import ArtifactPipeline.Log.Filter
import ArtifactPipeline.Log.Journal
import ArtifactPipeline.Run.Basic

set_option autoImplicit false

namespace ArtifactPipeline.Program

structure Surroundings where
  nproc : Nat
  stamp : String

structure Course where
  result : Except Failure Unit
  lines : List LogLine
  host : Host

def Course.failed (failure : Failure) (lines : List LogLine) (host : Host) : Course :=
  ⟨.error failure, lines, host⟩

def loadFile (host : Host) (path : Path) : Except Failure PipelineFile :=
  match host.readText path with
  | .error _ => .error (.readingPipelineFile path)
  | .ok text => PipelineFile.load text

def directoryOf (path : Path) : Path :=
  match path.parent? with
  | some parent => if parent.text.isEmpty then ⟨"."⟩ else parent
  | none => ⟨"."⟩

def rootOf (host : Host) (path : Path) : Except Failure Spot :=
  let dir := directoryOf path
  match host.stat dir with
  | .ok ⟨spot, _, .dir _ _⟩ => .ok spot
  | _ => .error (.resolvingDirectory dir)

def outcomeResult : Outcome → Except Failure Unit
  | .completed _ => .ok ()
  | .failed failure => .error failure
  | .crashed => .error .actionCrashed

def runTargets (pipeline : Pipeline) (settings : RunSettings) (targets groups : List String)
    (host : Host) : Except Failure Outcome × List LogLine × Host :=
  match pipeline.resolveTargets targets groups with
  | .error failure => (.error failure, [], host)
  | .ok ids =>
      let answer := Run.run Host.staff pipeline.registry settings ids host
      let host := answer.session.world.print answer.printed
      (.ok answer.outcome, .pipeline .debug ["targets"] :: answer.session.lines, host)

def runFile (file : PipelineFile) (settings : RunSettings) (line : CommandLine)
    (namer : OutputNamer) (host : Host) : Course :=
  let lines := Pipeline.journal file settings namer
  match Pipeline.build file settings namer with
  | .error failure => .failed failure lines host
  | .ok (pipeline, _) =>
      if line.list then ⟨.ok (), lines, host.print pipeline.listing⟩
      else
        match runTargets pipeline settings line.targets line.groups host with
        | (.error failure, more, host) => .failed failure (lines ++ more) host
        | (.ok outcome, more, host) =>
            match outcomeResult outcome with
            | .ok () => ⟨.ok (), lines ++ more ++ [.program .info ["executed", "up_to_date"]], host⟩
            | .error failure => .failed failure (lines ++ more) host

def run (line : CommandLine) (surroundings : Surroundings) (host : Host) : Course :=
  let path : Path := ⟨line.config⟩
  match loadFile host path with
  | .error failure => .failed failure [] host
  | .ok file =>
      match rootOf host path with
      | .error failure => .failed failure [] host
      | .ok root =>
          let host := { host with cwd := root }
          let entered := [LogLine.program .debug ["root"]]
          match Overrides.ofVars host.vars with
          | .error failure => .failed failure entered host
          | .ok overrides =>
              match RunSettings.resolve line file.settings overrides surroundings.nproc
                  ⟨Text.ofOctets (HostDisk.spotText root)⟩ with
              | .error failure => .failed failure entered host
              | .ok settings =>
                  let course := runFile file settings line ⟨surroundings.stamp, 0⟩ host
                  let configured := LogLine.program .debug ["run_config"]
                  { course with lines := entered ++ configured :: course.lines }

def name : String := "pipedag"

def version : String := "0.1.0"

structure Exit where
  status : Int
  complaint : Option String
  levels : List LogLevel
  host : Host

def usageStatus : Int := 2

def crashStatus : Int := 101

def call (args : List String) (surroundings : Surroundings) (host : Host) : Exit :=
  match CommandLine.read args with
  | .error .helpRequested => ⟨0, none, [], host⟩
  | .error .versionRequested => ⟨0, none, [], host.print (name ++ " " ++ version ++ "\n")⟩
  | .error _ => ⟨usageStatus, none, [], host⟩
  | .ok line =>
      match LogFilter.choose line.logLevel (host.vars.lookup "PIPEDAG_LOG") with
      | none => ⟨crashStatus, none, [], host⟩
      | some filter =>
          let course := run line surroundings host
          let levels := filter.levels course.lines
          match course.result with
          | .ok () => ⟨0, none, levels, course.host⟩
          | .error failure =>
              if failure.isBreakdown then ⟨crashStatus, none, levels, course.host⟩
              else
                ⟨failure.exitStatus, some (name ++ " error: " ++ failure.message), levels, course.host⟩

end ArtifactPipeline.Program
