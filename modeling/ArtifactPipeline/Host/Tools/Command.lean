import ArtifactPipeline.Host.Tools.Call

set_option autoImplicit false

namespace ArtifactPipeline.Tools

open Text (Octets)

def searchPath (vars : List (Octets × Octets)) : Octets :=
  (vars.lookup "PATH".toList).getD "/bin:/usr/bin".toList

def execOrShell (exec : Exec) : Exec := fun path call => do
  match ← exec path call with
  | .error .badFormat =>
      exec "/bin/sh".toList { call with name := "/bin/sh".toList, args := path :: call.args }
  | result => return result

def becomeOr (lead : String) (exec : Exec) (call : Call) (vars : List (Octets × Octets)) :
    List Octets → Chore Nat
  | [] => pure 0
  | name :: args => do
      let paths := candidates (searchPath vars) name
      match ← runFirst (execOrShell exec) { name, args, vars } paths .missing with
      | .ok status => return status
      | .error fault => do
          complain call.name (lead ++ quote name ++ ": " ++ fault.message)
          return refusalStatus fault

def become : Exec → Call → List (Octets × Octets) → List Octets → Chore Nat :=
  becomeOr ""

def refusal? (scene : Scene) (vars : List (Octets × Octets)) (name : Octets) :
    Option HostFault :=
  let rec look : List Octets → HostFault → Option HostFault
    | [], fault => some fault
    | path :: rest, fault =>
        match scene.stat path with
        | .ok ⟨_, _, .tool _⟩ => none
        | .ok ⟨_, _, .file _ _ mode⟩ =>
            if HostDisk.isExecutable mode then none else look rest .denied
        | .ok _ => look rest .denied
        | .error .missing | .error .notDirectory => look rest fault
        | .error other => look rest other
  look (candidates (searchPath vars) name) .missing

def shellName : Octets :=
  "sh".toList

def becomeShell (exec : Exec) (vars : List (Octets × Octets)) (name command : Octets) :
    Chore Nat := do
  match ← exec "/bin/sh".toList { name, args := ["-c".toList, command], vars } with
  | .ok status => return status
  | .error fault => return refusalStatus fault

structure Partner where
  process : Nat
  descriptor : Nat

def openPipe : Chore (Nat × Nat) :=
  Chore.act fun scene =>
    let (source, sink, scene) := scene.makePipe []
    let reading := Scene.freeDescriptor scene.me.files 3
    let scene := scene.attach reading source
    let writing := Scene.freeDescriptor scene.me.files 3
    ((reading, writing), scene.attach writing sink)

def moveDescriptor (from' place : Nat) : Chore Unit :=
  Chore.change fun scene =>
    match scene.me.files.lookup from' with
    | some id => (scene.detach from').attach place id
    | none => scene

def startSource (exec : Exec) (vars : List (Octets × Octets)) (others : List Nat)
    (name command : Octets) : Chore Partner := do
  let (reading, writing) ← openPipe
  let child : Chore Nat := do
    Chore.forEach (reading :: others) Chore.close
    moveDescriptor writing 1
    becomeShell exec vars name command
  let process ← Chore.fork child.toRoutine
  Chore.close writing
  return ⟨process, reading⟩

def startSink (exec : Exec) (vars : List (Octets × Octets)) (others : List Nat)
    (name command : Octets) : Chore Partner := do
  let (reading, writing) ← openPipe
  let child : Chore Nat := do
    Chore.forEach (writing :: others) Chore.close
    moveDescriptor reading 0
    becomeShell exec vars name command
  let process ← Chore.fork child.toRoutine
  Chore.close reading
  return ⟨process, writing⟩

def Partner.finish (partner : Partner) : Chore Ending := do
  Chore.close partner.descriptor
  Chore.waitFor partner.process

def outputOf (exec : Exec) (vars : List (Octets × Octets)) (command : Octets) :
    Chore Octets := do
  let partner ← startSource exec vars [] shellName command
  let text ← Chore.readAll partner.descriptor
  let _ ← partner.finish
  return text.toOption.getD []

end ArtifactPipeline.Tools
