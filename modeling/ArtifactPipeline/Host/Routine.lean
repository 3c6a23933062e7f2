import ArtifactPipeline.Host.Scene

set_option autoImplicit false

namespace ArtifactPipeline

open Text (Octets)

inductive Routine where
  | exit (status : Nat)
  | act (step : Scene → Scene × Routine)
  | await (ready : Scene → Bool) (next : Routine)
  | pause (time : Nat) (next : Routine)
  | fork (child : Routine) (next : Nat → Routine)

def Chore (α : Type) : Type :=
  (α → Routine) → Routine

namespace Chore

variable {α : Type}

instance : Monad Chore where
  pure a := fun next => next a
  bind chore f := fun next => chore fun a => f a next

def act (step : Scene → α × Scene) : Chore α :=
  fun next => .act fun scene =>
    let (a, scene) := step scene
    (scene, next a)

def look (view : Scene → α) : Chore α :=
  act fun scene => (view scene, scene)

def change (step : Scene → Scene) : Chore Unit :=
  act fun scene => ((), step scene)

def await (ready : Scene → Bool) : Chore Unit :=
  fun next => .await ready (next ())

def pause (time : Nat) : Chore Unit :=
  fun next => .pause time (next ())

def fork (child : Routine) : Chore Nat :=
  fun next => .fork child next

def exit (status : Nat) : Chore α :=
  fun _ => .exit status

def toRoutine (chore : Chore Nat) : Routine :=
  chore .exit

def die (signal : Nat) : Chore α :=
  fun _ => .act fun scene => (scene.finish scene.self (.signaled signal), .exit (128 + signal))

def blockSize : Nat := 65536

def readUpTo (descriptor count : Nat) : Chore (Except HostFault Octets) := do
  await fun scene => scene.canRead descriptor
  act fun scene => scene.read descriptor count

def readSome (descriptor : Nat) : Chore (Except HostFault Octets) :=
  readUpTo descriptor blockSize

def readAllFrom (descriptor : Nat) : Nat → List Octets → Chore (Except HostFault Octets)
  | 0, read => pure (.ok read.reverse.flatten)
  | rounds + 1, read => do
      match ← readSome descriptor with
      | .error fault => return .error fault
      | .ok [] => return .ok read.reverse.flatten
      | .ok bytes => readAllFrom descriptor rounds (bytes :: read)

def readLimit : Nat := 100000

def readAll (descriptor : Nat) : Chore (Except HostFault Octets) :=
  readAllFrom descriptor readLimit []

def pipeSignal : Nat := 13

def write (descriptor : Nat) (bytes : Octets) : Chore (Except HostFault Unit) := do
  await fun scene => scene.canWrite descriptor
  match ← act fun scene => scene.write descriptor bytes with
  | .error .brokenPipe => do
      if ← look fun scene => scene.me.ignored.contains pipeSignal then return .error .brokenPipe
      else die pipeSignal
  | result => return result

def awaitMeeting (descriptor : Nat) : Chore Unit :=
  await fun scene =>
    match scene.me.files.lookup descriptor with
    | some id => scene.isMet id
    | none => true

def openFile (access : Scene.Access) (path : Octets) : Chore (Except HostFault Nat) := do
  let opened ← act fun scene =>
    match scene.openPath access path with
    | .error fault => (.error fault, scene)
    | .ok (id, scene) =>
        let descriptor := Scene.freeDescriptor scene.me.files 0
        (.ok descriptor, scene.attach descriptor id)
  if let .ok descriptor := opened then awaitMeeting descriptor
  return opened

def close (descriptor : Nat) : Chore Unit :=
  change fun scene => scene.detach descriptor

def readFile (path : Octets) : Chore (Except HostFault Octets) := do
  match ← openFile .reading path with
  | .error fault => return .error fault
  | .ok descriptor =>
      let content ← readAll descriptor
      close descriptor
      return content

def writeFile (access : Scene.Access) (path content : Octets) :
    Chore (Except HostFault Unit) := do
  match ← openFile access path with
  | .error fault => return .error fault
  | .ok descriptor =>
      let result ← write descriptor content
      close descriptor
      return result

def onDisk (step : HostDisk → Spot → Except HostFault HostDisk) : Chore (Except HostFault Unit) :=
  act fun scene => scene.attempt (step scene.disk scene.cwd)

def stat (path : Octets) : Chore (Except HostFault HostEntry) :=
  look fun scene => scene.stat path

def lstat (path : Octets) : Chore (Except HostFault HostEntry) :=
  look fun scene => scene.lstat path

def waitFor (process : Nat) : Chore Ending := do
  await fun scene => (scene.endingOf process).isSome
  look fun scene => (scene.endingOf process).getD (.exited 0)

def forEach {β : Type} (items : List β) (f : β → Chore Unit) : Chore Unit :=
  match items with
  | [] => pure ()
  | item :: rest => do
      f item
      forEach rest f

end Chore

end ArtifactPipeline
