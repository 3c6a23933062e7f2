import ArtifactPipeline.Run.Pool
import ArtifactPipeline.Run.Sequence
import ArtifactPipeline.Run.Session
import ArtifactPipeline.RunSettings

set_option autoImplicit false

namespace ArtifactPipeline.Run

section DryRun

variable {W : Type} [Disk W]

structure Preview where
  verdicts : Verdicts
  report : Report
  lines : List String

namespace Preview

def start (nodes : Nat) : Preview :=
  ⟨.none, .empty, ["pipedag dry-run (" ++ Nat.repr nodes ++ " nodes planned)"]⟩

def write (preview : Preview) (line : String) : Preview :=
  { preview with lines := preview.lines ++ [line] }

def text (preview : Preview) : String :=
  String.join (preview.lines.map fun line => line ++ "\n")

end Preview

def actionLines (node : Artifact) (id : NodeId) : List String :=
  match node.action with
  | .none => []
  | .createDir => ["      mkdir -p " ++ id]
  | .symlink target => ["      ln -s " ++ target.text ++ " " ++ id]
  | .run commands => commands.map fun command => "      " ++ command.display

def previewNode (preview : Preview) (node : Artifact) (id : NodeId) (dirty : Bool) : Preview :=
  if dirty then
    { preview with
      lines := preview.lines ++ ("  - " ++ id) :: actionLines node id
      report := { preview.report with executed := preview.report.executed ++ [id] } }
  else
    { preview with report := { preview.report with skipped := preview.report.skipped ++ [id] } }

/-- Goes through nodes in order without touching anything. A missing prerequisite is reported and
its dependent taken for dirty. -/
def previewAll (registry : Registry) (world : W) :
    List NodeId → Preview → Except Failure Unit × Preview
  | [], preview => (.ok (), preview)
  | id :: rest, preview =>
      match registry.resolve id with
      | .error failure => (.error failure, preview)
      | .ok node =>
          let (answer, verdicts) := Freshness.isDirty registry world preview.verdicts id
          let preview := { preview with verdicts }
          match answer with
          | .ok dirty => previewAll registry world rest (previewNode preview node id dirty)
          | .error (.missingPrerequisite _ prerequisite) =>
              let preview :=
                preview.write ("  ! " ++ id ++ ": missing prerequisite " ++ prerequisite)
              previewAll registry world rest (previewNode preview node id true)
          | .error failure => (.error failure, preview)

def dryRun (registry : Registry) (plan : Plan) (world : W) : Except Failure Unit × Preview :=
  previewAll registry world plan.order (.start plan.order.length)

end DryRun

variable {W V : Type} [Disk W] [Disk V]

structure Answer (W : Type) where
  outcome : Outcome
  printed : String
  session : Session W

def settled (outcome : Outcome × Session W) : Answer W :=
  ⟨outcome.1, "", outcome.2⟩

def dismissed (staff : Staff W V) (session : Session V) : Session W :=
  let (world, events) := staff.dismiss session.world
  { session with world, trace := session.trace ++ events }

def preview (registry : Registry) (plan : Plan) (world : W) : Answer W :=
  let (result, preview) := dryRun registry plan world
  let session : Session W :=
    { Session.start world plan.states with verdicts := preview.verdicts, report := preview.report }
  match result with
  | .ok () => ⟨.completed preview.report, preview.text, session.note .dryRunEnded⟩
  | .error failure => ⟨.failed failure, preview.text, session⟩

def carryOut (staff : Staff W V) (registry : Registry) (settings : RunSettings) (plan : Plan)
    (world : W) : Answer W :=
  if settings.dryRun then preview registry plan world
  else if settings.jobs ≤ 1 then
    settled (inSequence registry staff.executor plan.order (.start world plan.states))
  else
    let (outcome, session) :=
      inParallel registry staff.crew settings.jobs plan (staff.gather world)
    settled (outcome, dismissed staff session)

def run (staff : Staff W V) (registry : Registry) (settings : RunSettings)
    (targets : List NodeId) (world : W) : Answer W :=
  match Plan.make registry targets with
  | .error failure => ⟨.failed failure, "", .start world .empty⟩
  | .ok plan =>
      let answer := carryOut staff registry settings plan world
      let opening := [Event.planned plan.order.length, .started targets]
      { answer with session := { answer.session with trace := opening ++ answer.session.trace } }

end ArtifactPipeline.Run
