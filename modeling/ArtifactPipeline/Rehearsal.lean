import ArtifactPipeline.Disk.Step
import ArtifactPipeline.Run.Pool

set_option autoImplicit false

namespace ArtifactPipeline.Rehearsal

structure Stage where
  disk : VirtualDisk
  calls : List Invocation := []
  finished : List NodeId := []

instance : Disk Stage where
  present stage := Disk.present stage.disk
  isFile stage := Disk.isFile stage.disk
  isDir stage := Disk.isDir stage.disk
  isLink stage := Disk.isLink stage.disk
  modified stage := Disk.modified stage.disk
  removeFile stage path :=
    let (result, disk) := Disk.removeFile stage.disk path
    (result, { stage with disk })
  createDirs stage path :=
    let (result, disk) := Disk.createDirs stage.disk path
    (result, { stage with disk })
  symlink stage target link :=
    let (result, disk) := Disk.symlink stage.disk target link
    (result, { stage with disk })
  readDir stage := Disk.readDir stage.disk
  extent stage := Disk.extent stage.disk

inductive Ending where
  | success
  | exit (status : Int)
  | refusal (failure : Failure)
  | crash
  deriving DecidableEq, Repr

structure Cue where
  node : Option NodeId := none
  program : Option String := none
  nth : Option Nat := none
  after : Option NodeId := none
  steps : List DiskStep := []
  ending : Ending := .success
  produce : Bool := true

def Cue.fits (cue : Cue) (invocation : Invocation) (nth : Nat) : Bool :=
  (cue.node.map fun node => node == invocation.node).getD true &&
    (cue.program.map fun program => program == invocation.command.program).getD true &&
    (cue.nth.map fun wanted => wanted == nth).getD true

def outputOf (program : String) : String :=
  "output of " ++ program ++ "\n"

def leadIn (disk : VirtualDisk) (redirect : Redirect) : Except DiskFault String :=
  let header := (redirect.header.map fun header => header ++ "\n").getD ""
  if redirect.append && disk.present redirect.path then
    match disk.readText redirect.path with
    | .ok old => .ok (old ++ header)
    | .error fault => .error fault
  else .ok header

def redirectOutput (disk : VirtualDisk) (output : String) :
    Option Redirect → Except DiskFault VirtualDisk
  | none => .ok disk
  | some redirect =>
      match leadIn disk redirect with
      | .ok lead => .ok (disk.write redirect.path (Text.utf8 (lead ++ output)))
      | .error fault => .error fault

def redirectsTo (command : Command) (path : Path) : Bool :=
  (command.stdout.map fun redirect => redirect.path.same path).getD false

def produce (disk : VirtualDisk) (invocation : Invocation) : Except DiskFault VirtualDisk :=
  let output := outputOf invocation.command.program
  let own : Path := ⟨invocation.node⟩
  match redirectOutput disk output invocation.command.stdout with
  | .error fault => .error fault
  | .ok disk =>
      if invocation.kind == .file && !redirectsTo invocation.command own then
        .ok (disk.write own (Text.utf8 output))
      else .ok disk

structure Ticket where
  invocation : Invocation
  cue : Cue

def begin (script : List Cue) (invocation : Invocation) (stage : Stage) : Ticket × Stage :=
  let stage := { stage with calls := stage.calls ++ [invocation] }
  let cue := (script.find? fun cue => cue.fits invocation stage.calls.length).getD {}
  (⟨invocation, cue⟩, stage)

def Stage.finish (stage : Stage) (node : NodeId) : Stage :=
  { stage with finished := stage.finished ++ [node] }

def perform (ticket : Ticket) (reply : Reply) (stage : Stage) : Reply × Stage :=
  if ticket.cue.produce then
    match produce stage.disk ticket.invocation with
    | .ok disk => (reply, { stage with disk })
    | .error fault => (.refused (.disk fault), stage)
  else (reply, stage)

def finish? (ticket : Ticket) (stage : Stage) : Option (Reply × Stage) :=
  let node := ticket.invocation.node
  let waiting := (ticket.cue.after.map fun id => !stage.finished.contains id).getD false
  if waiting then none
  else
    let stage := { stage with disk := stage.disk.applyAll ticket.cue.steps }
    match ticket.cue.ending with
    | .crash => some (.crashed, stage)
    | .refusal failure => some (.refused failure, stage.finish node)
    | .success =>
        let (reply, stage) := perform ticket .success stage
        some (reply, stage.finish node)
    | .exit status =>
        let (reply, stage) := perform ticket (.exited status) stage
        some (reply, stage.finish node)

def worker (script : List Cue) : Worker Stage Ticket where
  begin := begin script
  finish? := finish?

def failingAt (nth : Nat) (status : Int) : List Cue :=
  [{ nth := some nth, ending := .exit status, produce := false }]

end ArtifactPipeline.Rehearsal
