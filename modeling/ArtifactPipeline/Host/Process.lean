import ArtifactPipeline.Host.Basic
import ArtifactPipeline.Host.Launch
import ArtifactPipeline.Run.Pool

set_option autoImplicit false

namespace ArtifactPipeline

open Text (Octets)

namespace Host

def directoryOf (host : Host) (command : Command) : Except HostFault Spot :=
  match command.cwd with
  | none => .ok host.cwd
  | some path =>
      match host.stat path with
      | .ok ⟨spot, _, .dir _ _⟩ => .ok spot
      | .ok _ => .error .notDirectory
      | .error fault => .error fault

def passable (command : Command) : Bool :=
  (command.program :: command.args ++ command.env.vars.flatMap (fun (key, value) => [key, value]) ++
    (command.cwd.map Path.text).toList).all fun text => !text.toList.contains (Char.ofNat 0)

def openRedirect (scene : Scene) : Option Redirect → Except Failure (Nat × Scene)
  | none => .ok (scene.enter { channel := .output, writable := true })
  | some redirect =>
      let access := if redirect.append then Scene.Access.appending else .writing
      match scene.openPath access (Text.octets redirect.path.text) with
      | .error _ => .error (.openingOutput redirect.path)
      | .ok (id, scene) =>
          match redirect.header with
          | none => .ok (id, scene)
          | some header =>
              match (scene.attach 1 id).write 1 (Text.octets (header ++ "\n")) with
              | (.ok (), scene) => .ok (id, scene)
              | (.error _, _) => .error (.writingHeader redirect.path)

def usualVars : List (String × String) :=
  [("PATH", Shell.defaultPath)]

def varsOf (host : Host) (command : Command) : List (String × String) :=
  let inherited := host.vars.foldl (fun vars (key, value) => Assoc.set key value vars) usualVars
  if command.env.vars.isEmpty then inherited
  else ((Environment.ofList inherited).addAll command.env.vars).vars

/-- The program of a command as its process finds it. When the command brings a search path of its
own, that one counts, and a file that is no program is run by the shell. -/
def programOf (scene : Scene) (command : Command) (call : Tools.Call) :
    Except HostFault (String × Tools.Call) :=
  match command.env.get? "PATH" with
  | some path =>
      let resolve := if call.name.contains '/' then Launch.resolve else Launch.resolveOrShell
      first (fun path => resolve scene path call) (Tools.candidates (Text.octets path) call.name)
  | none =>
      first (fun path => Launch.resolve scene path call)
        (Tools.candidates (Text.octets Shell.defaultPath) call.name)
where
  first (resolve : Octets → Except HostFault (String × Tools.Call)) :
      List Octets → Except HostFault (String × Tools.Call)
    | [] => .error .missing
    | path :: rest =>
        match resolve path with
        | .ok program => .ok program
        | .error .missing | .error .notDirectory | .error .denied => first resolve rest
        | .error fault => .error fault

def spawn (invocation : Invocation) (host : Host) : Except Failure Nat × Host :=
  let command := invocation.command
  let refused := Failure.spawning command.program invocation.node
  let own : ProcessRecord := { cwd := host.cwd }
  let scene := ({ host.scene with self := ownProcess } : Scene).setMe own
  match openRedirect scene command.stdout with
  | .error failure => (.error failure, host)
  | .ok (output, scene) =>
      match host.directoryOf command with
      | .error _ => (.error refused, host.setScene scene)
      | .ok cwd =>
          let name := Text.octets command.program
          let call : Tools.Call := {
            name
            args := command.args.map Text.octets
            vars := (host.varsOf command).map fun (key, value) =>
              (Text.octets key, Text.octets value) }
          let (input, scene) := scene.enter { channel := .device .null, readable := true }
          let (errors, scene) := scene.enter { channel := .errors, writable := true }
          let (process, scene) := scene.spawn
          let record : ProcessRecord := { cwd, files := [(0, input), (1, output), (2, errors)] }
          let scene := scene.setRecord process record
          let found := programOf { scene with self := process } command call
          match passable command, found with
          | true, .ok (name, call) =>
              let runner : Runner :=
                ⟨process, scene.disk.clock + Machine.startTime, Launch.routineOf name call⟩
              (.ok process, { host with
                machine := { scene, runners := host.machine.runners ++ [runner] } })
          | _, _ => (.error refused, host.setScene (scene.finish process (.exited 127)))

def replyOf : Option Ending → Reply
  | some (.exited 0) => .success
  | some (.exited status) => .exited status
  | some (.signaled _) => .exited (-1)
  | none => .crashed

def runUntilEnd (processes : List Nat) (host : Host) : Host :=
  { host with
    machine := host.machine.runUntil
      (fun scene => processes.any fun process => (scene.endingOf process).isSome)
      Machine.patience }

def linger (host : Host) : Host :=
  { host with machine := host.machine.linger }

def execute (invocation : Invocation) (host : Host) : Reply × Host :=
  match host.spawn invocation with
  | (.error failure, host) => (.refused failure, host)
  | (.ok process, host) =>
      let host := (host.runUntilEnd [process]).linger
      (replyOf (host.scene.endingOf process), host)

end Host

structure HostTask where
  node : Artifact
  process : Nat
  commands : List Command

structure HostPool where
  host : Host
  waiting : List Artifact := []
  running : List HostTask := []
  ended : List (NodeId × TaskResult) := []
  trace : List Event := []

namespace HostPool

instance : Disk HostPool where
  present pool := Disk.present pool.host
  isFile pool := Disk.isFile pool.host
  isDir pool := Disk.isDir pool.host
  isLink pool := Disk.isLink pool.host
  modified pool := Disk.modified pool.host
  removeFile pool path :=
    let (result, host) := Disk.removeFile pool.host path
    (result, { pool with host })
  createDirs pool path :=
    let (result, host) := Disk.createDirs pool.host path
    (result, { pool with host })
  symlink pool target link :=
    let (result, host) := Disk.symlink pool.host target link
    (result, { pool with host })
  readDir pool := Disk.readDir pool.host
  extent pool := Disk.extent pool.host

def noteAll (pool : HostPool) (events : List Event) : HostPool :=
  { pool with trace := pool.trace ++ events }

def conclude (pool : HostPool) (node : Artifact) (result : TaskResult) : HostPool :=
  { pool with ended := pool.ended ++ [(node.id, result)] }

def goOn (node : Artifact) (commands : List Command) (pool : HostPool) : HostPool :=
  match commands with
  | [] => pool.conclude node .succeeded
  | command :: rest =>
      let invocation : Invocation := ⟨node.id, node.kind, command⟩
      match pool.host.spawn invocation with
      | (.error failure, host) =>
          ({ pool.noteAll [.called invocation] with host }).conclude node (.failed failure)
      | (.ok process, host) =>
          { pool.noteAll [.called invocation] with
            host
            running := pool.running ++ [⟨node, process, rest⟩] }

def respond (pool : HostPool) (task : HostTask) : HostPool :=
  let id := task.node.id
  let pool := { pool with running := pool.running.filter fun t => t.process != task.process }
  match Host.replyOf (pool.host.scene.endingOf task.process) with
  | .success => goOn task.node task.commands (pool.noteAll [.commandEnded id 0])
  | .exited status =>
      (pool.noteAll [.commandEnded id status, .commandFailed id status]).conclude task.node
        (.failed (.actionFailed id status))
  | .refused failure => pool.conclude task.node (.failed failure)
  | .crashed => pool.conclude task.node .crashed

def beginAll (pool : HostPool) : HostPool :=
  pool.waiting.foldl (fun pool node =>
    goOn node (Run.commandsOf node.action) (pool.noteAll [.building node.id]))
    { pool with waiting := [] }

def advance : Nat → HostPool → HostPool
  | 0, pool => pool
  | rounds + 1, pool =>
      if !pool.ended.isEmpty || pool.running.isEmpty then pool
      else
        let host := pool.host.runUntilEnd (pool.running.map (·.process))
        let finished := pool.running.filter fun task =>
          (host.scene.endingOf task.process).isSome
        if finished.isEmpty then { pool with host }
        else advance rounds (finished.foldl respond { pool with host })

def load (pool : HostPool) : Nat :=
  pool.running.foldl (fun total task => total + task.commands.length + 1) 0

def join (running : List NodeId) (busy : running ≠ []) (pool : HostPool) :
    Joined HostPool running :=
  let pool :=
    if pool.ended.isEmpty then
      let pool := pool.beginAll
      advance (pool.load + 1) pool
    else pool
  match pool.ended with
  | [] => ⟨oldestTask running busy, .crashed, pool⟩
  | (id, result) :: ended =>
      ⟨(running.finIdxOf? id).getD (oldestTask running busy), result, { pool with ended }⟩

end HostPool

def Host.staff : Staff Host HostPool where
  executor := { execute := Host.execute }
  crew := {
    start := fun node pool => { pool with waiting := pool.waiting ++ [node] }
    meanwhile := id
    join := HostPool.join }
  gather host := { host }
  dismiss pool := (pool.host.linger, pool.trace)

end ArtifactPipeline
