import ArtifactPipeline.Run.Session

set_option autoImplicit false

namespace ArtifactPipeline.Run

variable {W : Type}

def runCommands (executor : Executor W) (node : Artifact) :
    List Command → W → TaskResult × List Event × W
  | [], world => (.succeeded, [], world)
  | command :: rest, world =>
      let invocation : Invocation := ⟨node.id, node.kind, command⟩
      let (reply, world) := executor.execute invocation world
      match reply with
      | .success =>
          let (result, events, world) := runCommands executor node rest world
          (result, .called invocation :: .commandEnded node.id 0 :: events, world)
      | .exited status =>
          (.failed (.actionFailed node.id status),
            [.called invocation, .commandEnded node.id status, .commandFailed node.id status],
            world)
      | .refused failure => (.failed failure, [.called invocation], world)
      | .crashed => (.crashed, [.called invocation], world)

def commandsOf : Action → List Command
  | .run commands => commands
  | _ => []

def runTask (executor : Executor W) (node : Artifact) (world : W) :
    TaskResult × List Event × W :=
  let (result, events, world) := runCommands executor node (commandsOf node.action) world
  (result, .building node.id :: events, world)

variable [Disk W]

def runInternal (node : Artifact) (world : W) : Except Failure Unit × List Event × W :=
  match node.action with
  | .none => (.ok (), [], world)
  | .createDir =>
      match Disk.createDirs world node.path with
      | (.ok (), world) => (.ok (), [.creatingDirectory node.id], world)
      | (.error fault, world) => (.error (.disk fault), [.creatingDirectory node.id], world)
  | .symlink target =>
      if Disk.present world node.path then (.ok (), [.alreadyLinked node.id], world)
      else
        match Disk.symlink world target node.path with
        | (.ok (), world) => (.ok (), [.linking node.id], world)
        | (.error fault, world) => (.error (.disk fault), [.linking node.id], world)
  | .run _ => (.error (.notInternal node.id), [], world)

def outputTime (world : W) (node : Artifact) : Except Failure (Option Nat) :=
  match node.kind with
  | .file =>
      match Disk.modified world node.path with
      | .ok mtime => .ok mtime
      | .error fault => .error (.disk fault)
  | _ => .ok none

def removeLeftover (node : Artifact) (world : W) : List Event × W :=
  match Disk.removeFile world node.path with
  | (.ok (), world) => ([.leftoverRemoved node.id], world)
  | (.error _, world) => ([.leftoverKept node.id], world)

/-- Removes a file that a failed action made or rewrote, so that the next run does not take it for
up to date. A file with its old modification time stays. -/
def discardLeftover (node : Artifact) (before : Option Nat) (world : W) : List Event × W :=
  match node.kind with
  | .file =>
      match Disk.modified world node.path with
      | .error _ => ([.leftoverUnknown node.id], world)
      | .ok none => if Disk.isLink world node.path then removeLeftover node world else ([], world)
      | .ok after =>
          if before.isSome && after == before then ([], world) else removeLeftover node world
  | _ => ([], world)

def discard (session : Session W) (node : Artifact) (before : Option Nat) : Session W :=
  let (events, world) := discardLeftover node before session.world
  { session.noteAll events with world }

end ArtifactPipeline.Run
