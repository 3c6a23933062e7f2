import ArtifactPipeline.CommandLine
import ArtifactPipeline.Config.Model
import ArtifactPipeline.Failure
import ArtifactPipeline.Text.Lower

set_option autoImplicit false

namespace ArtifactPipeline

structure RunSettings where
  publicOnly : Bool := false
  queries : Nat := 1000
  jobs : Nat := 1
  dryRun : Bool := false
  nproc : Nat := 1
  root : Path := ⟨""⟩
  deriving DecidableEq, Repr

structure Overrides where
  onlyPublic : Option Bool := none
  queries : Option Nat := none
  jobs : Option Nat := none
  deriving DecidableEq, Repr

namespace Overrides

def readBool (value : String) : Except ConfigFault Bool :=
  let word := Text.lower value
  if word ∈ ["1", "true", "yes", "on"] then .ok true
  else if word ∈ ["", "0", "false", "no", "off"] then .ok false
  else .error (.notBoolean word)

def readNumber (name value : String) : Except ConfigFault Nat :=
  match Text.readWord value with
  | some number => .ok number
  | none => .error (.notNumber name value)

def apply (overrides : Overrides) (key value : String) : Except ConfigFault Overrides :=
  match key with
  | "PIPEDAG_ONLY_PUBLIC" =>
      match readBool value with
      | .ok onlyPublic => .ok { overrides with onlyPublic := some onlyPublic }
      | .error fault => .error fault
  | "NUM_DIJKSTRA_QUERIES" =>
      match readNumber key value with
      | .ok queries => .ok { overrides with queries := some queries }
      | .error fault => .error fault
  | "PIPEDAG_JOBS" =>
      match readNumber key value with
      | .ok jobs => .ok { overrides with jobs := some jobs }
      | .error fault => .error fault
  | _ => .ok overrides

def applyAll (overrides : Overrides) : List (String × String) → Except ConfigFault Overrides
  | [] => .ok overrides
  | (key, value) :: rest =>
      match overrides.apply key (Text.trimText value) with
      | .ok overrides => overrides.applyAll rest
      | .error fault => .error fault

def presenceKey : String := "ONLY_PUBLIC"

def ofVars (vars : List (String × String)) : Except Failure Overrides :=
  match ({} : Overrides).applyAll vars with
  | .error fault => .error (.config fault)
  | .ok overrides =>
      if overrides.onlyPublic.isNone && vars.any fun var => var.1 == presenceKey then
        .ok { overrides with onlyPublic := some true }
      else .ok overrides

end Overrides

namespace RunSettings

/-- The command line comes first, then the environment, then the pipeline file. -/
def resolve (line : CommandLine) (settings : Settings) (overrides : Overrides) (nproc : Nat)
    (root : Path) : Except Failure RunSettings :=
  let jobs := ((line.jobs.or overrides.jobs).or settings.jobs).getD 1
  if jobs = 0 then .error (.config .jobsZero)
  else .ok {
    publicOnly := line.onlyPublic || overrides.onlyPublic.getD false
    queries := (line.queries.or overrides.queries).getD settings.defaultQueries
    jobs
    dryRun := line.dryRun
    nproc
    root
  }

end RunSettings

end ArtifactPipeline
