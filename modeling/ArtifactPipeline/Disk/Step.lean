import ArtifactPipeline.Disk.Virtual
import ArtifactPipeline.Glob.Expand

set_option autoImplicit false

namespace ArtifactPipeline

inductive ListedKind where
  | link
  | dir
  | file (text : Option String)
  | nothing
  deriving DecidableEq, Repr

structure ListedEntry where
  path : Path
  kind : ListedKind
  mtime : Option Nat
  deriving DecidableEq, Repr

namespace VirtualDisk

def fileText? (disk : VirtualDisk) (path : Path) : Option String :=
  match disk.readText path with
  | .ok text => some text
  | .error _ => none

def describe (disk : VirtualDisk) (path : Path) : ListedEntry :=
  let kind :=
    if disk.isLink path then .link
    else if disk.isDir path then .dir
    else if disk.isFile path then .file (disk.fileText? path)
    else .nothing
  ⟨path, kind, disk.mtimeOf path⟩

def listAll (disk : VirtualDisk) : Nat → List Path → List ListedEntry
  | 0, _ => []
  | _, [] => []
  | fuel + 1, path :: rest =>
      let entry := disk.describe path
      let children :=
        match entry.kind, disk.readDir path with
        | .dir, .ok children => children
        | _, _ => []
      entry :: disk.listAll fuel (children ++ rest)

def listBelow (disk : VirtualDisk) (path : Path) : List ListedEntry :=
  match disk.readDir path with
  | .ok children => disk.listAll (2 * disk.extent) children
  | .error _ => []

def listing (disk : VirtualDisk) : List ListedEntry :=
  disk.listBelow ⟨""⟩ ++ disk.listBelow ⟨"/"⟩

end VirtualDisk

inductive DiskStep where
  | add (path : Path) (content : List UInt8)
  | touch (path : Path)
  | remove (path : Path)
  | addEach (dir : Path) (names : List String)
  | write (path : Path) (content : List UInt8)
  | removeFile (path : Path)
  | createDirs (path : Path)
  | symlink (target link : Path)
  | read (path : Path)
  | inspect (path : Path)
  | list (path : Path)
  | glob (pattern : String)
  | listAll

structure FileStatus where
  present : Bool
  file : Bool
  dir : Bool
  link : Bool
  modified : Option Nat

inductive DiskAnswer where
  | mtime (value : Option Nat)
  | done
  | refused (failure : Failure)
  | content (text : String)
  | status (status : FileStatus)
  | entries (paths : List Path)
  | found (paths : List Path)
  | listing (entries : List ListedEntry)

namespace DiskAnswer

def ofResult : Except DiskFault Unit → DiskAnswer
  | .ok () => .done
  | .error fault => .refused (.disk fault)

end DiskAnswer

namespace VirtualDisk

def addEach (disk : VirtualDisk) (dir : Path) (names : List String) : VirtualDisk :=
  names.foldl (fun disk name => disk.write (dir.join ⟨name⟩) (Text.utf8 name)) disk

def inspect (disk : VirtualDisk) (path : Path) : FileStatus :=
  ⟨disk.present path, disk.isFile path, disk.isDir path, disk.isLink path, disk.mtimeOf path⟩

def apply (disk : VirtualDisk) : DiskStep → DiskAnswer × VirtualDisk
  | .add path content =>
      let disk := disk.write path content
      (.mtime (disk.mtimeOf path), disk)
  | .touch path =>
      let disk := disk.touch path
      (.mtime (disk.mtimeOf path), disk)
  | .remove path =>
      let disk := disk.remove path
      (.mtime (disk.mtimeOf path), disk)
  | .addEach dir names =>
      let disk := disk.addEach dir names
      (.mtime (disk.mtimeOf dir), disk)
  | .write path content => (.done, disk.write path content)
  | .removeFile path =>
      let (result, disk) := disk.removeFile path
      (.ofResult result, disk)
  | .createDirs path =>
      let (result, disk) := disk.createDirs path
      (.ofResult result, disk)
  | .symlink target link =>
      let (result, disk) := disk.symlink target link
      (.ofResult result, disk)
  | .read path =>
      match disk.readText path with
      | .ok text => (.content text, disk)
      | .error fault => (.refused (.disk fault), disk)
  | .inspect path => (.status (disk.inspect path), disk)
  | .list path =>
      match disk.readDir path with
      | .ok paths => (.entries paths, disk)
      | .error fault => (.refused (.disk fault), disk)
  | .glob pattern =>
      match Glob.expand disk pattern with
      | .ok paths => (.found paths, disk)
      | .error failure => (.refused failure, disk)
  | .listAll => (.listing disk.listing, disk)

def applyAll (disk : VirtualDisk) (steps : List DiskStep) : VirtualDisk :=
  steps.foldl (fun disk step => (disk.apply step).2) disk

end VirtualDisk

end ArtifactPipeline
