import ArtifactPipeline.Failure
import ArtifactPipeline.Host.Machine

set_option autoImplicit false

namespace ArtifactPipeline

open Text (Octets)

/-- A machine that pipelines run on, as one program sees it: with a working directory and the
variables that other programs inherit. -/
structure Host where
  machine : Machine
  cwd : Spot
  vars : List (String × String) := []

namespace Host

def scene (host : Host) : Scene :=
  host.machine.scene

def disk (host : Host) : HostDisk :=
  host.machine.scene.disk

def setScene (host : Host) (scene : Scene) : Host :=
  { host with machine := { host.machine with scene } }

def setDisk (host : Host) (disk : HostDisk) : Host :=
  host.setScene { host.scene with disk }

def stat (host : Host) (path : Path) : Except HostFault HostEntry :=
  host.disk.stat host.cwd (Text.octets path.text)

def present (host : Host) (path : Path) : Bool :=
  (host.stat path).isOk

def isFile (host : Host) (path : Path) : Bool :=
  match host.stat path with
  | .ok ⟨_, _, .file _ _ _⟩ | .ok ⟨_, _, .tool _⟩ => true
  | _ => false

def isDir (host : Host) (path : Path) : Bool :=
  host.disk.isDirAt host.cwd (Text.octets path.text)

def isLink (host : Host) (path : Path) : Bool :=
  match host.disk.lstat host.cwd (Text.octets path.text) with
  | .ok ⟨_, _, .link _ _⟩ => true
  | _ => false

def modified (host : Host) (path : Path) : Except DiskFault (Option Nat) :=
  match host.stat path with
  | .ok entry => .ok (some (HostDisk.mtimeOf entry.node))
  | .error .missing => .ok none
  | .error _ => .error (.inspecting path)

def attempt (host : Host) (fault : DiskFault) :
    Except HostFault HostDisk → Except DiskFault Unit × Host
  | .ok disk => (.ok (), host.setDisk disk)
  | .error _ => (.error fault, host)

def removeFile (host : Host) (path : Path) : Except DiskFault Unit × Host :=
  host.attempt (.removing path) (host.disk.unlink host.cwd (Text.octets path.text))

def createDirs (host : Host) (path : Path) : Except DiskFault Unit × Host :=
  match host.disk.mkdirs host.cwd path with
  | (.ok (), disk) => (.ok (), host.setDisk disk)
  | (.error _, disk) => (.error (.creatingDirectory path), host.setDisk disk)

def symlink (host : Host) (target link : Path) : Except DiskFault Unit × Host :=
  host.attempt (.linking link target)
    (host.disk.makeLink host.cwd (Text.octets target.text) (Text.octets link.text))

def readDir (host : Host) (path : Path) : Except DiskFault (List Path) :=
  match host.stat path with
  | .ok ⟨spot, _, .dir _ _⟩ =>
      .ok ((host.disk.namesIn spot).map fun name => path.join ⟨Text.ofOctets name⟩)
  | _ => .error (.listing path)

def readText (host : Host) (path : Path) : Except DiskFault String :=
  match host.disk.read host.cwd (Text.octets path.text) with
  | .ok content =>
      match Text.ofOctets? content with
      | some text => .ok text
      | none => .error (.reading path)
  | .error _ => .error (.reading path)

def createParent (host : Host) (path : Path) : Except DiskFault Unit × Host :=
  match path.parent? with
  | some parent => if parent.text.isEmpty then (.ok (), host) else host.createDirs parent
  | none => (.ok (), host)

def write (host : Host) (path : Path) (content : Octets) : Except DiskFault Unit × Host :=
  match host.createParent path with
  | (.error fault, host) => (.error fault, host)
  | (.ok (), host) =>
      host.attempt (.creatingFile path)
        (host.disk.writeFile host.cwd (Text.octets path.text) content)

def place (host : Host) (path : Path) (content : Octets) (mtime : Nat) (executable : Bool) :
    Host :=
  let (_, written) := host.write path content
  match written.stat path with
  | .ok entry =>
      let disk := written.disk
      let disk := if executable then disk.setMode entry HostDisk.directoryMode else disk
      match disk.get? entry.spot with
      | some entry => written.setDisk (disk.setTime entry mtime)
      | none => written
  | .error _ => host

def clear (host : Host) (path : Path) : Host :=
  match host.disk.lstat host.cwd (Text.octets path.text) with
  | .ok entry => host.setDisk (host.disk.removeTree entry.spot)
  | .error _ => host

def ownProcess : Nat := 4000

def fresh (cwd : Spot) (clock : Nat) : Host :=
  { machine := { scene := { disk := HostDisk.fresh cwd clock, self := ownProcess } }, cwd }

instance : Disk Host where
  present := present
  isFile := isFile
  isDir := isDir
  isLink := isLink
  modified := modified
  removeFile := removeFile
  createDirs := createDirs
  symlink := symlink
  readDir := readDir
  extent host := host.disk.names.length + 1

def print (host : Host) (text : String) : Host :=
  host.setScene { host.scene with printed := Text.octets text :: host.scene.printed }

def output (host : Host) : String :=
  Text.ofOctets host.scene.printed.reverse.flatten

def complaints (host : Host) : String :=
  Text.ofOctets host.scene.complaints.reverse.flatten

def quiet (host : Host) : Host :=
  host.setScene { host.scene with printed := [], complaints := [] }

def settle (host : Host) : Host :=
  { host with machine := host.machine.runUntil (fun _ => false) Machine.patience }

end Host

end ArtifactPipeline
