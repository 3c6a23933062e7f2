import ArtifactPipeline.Assoc
import ArtifactPipeline.Disk.Basic
import ArtifactPipeline.Path.Location

set_option autoImplicit false

namespace ArtifactPipeline

inductive Entry where
  | file (content : List UInt8) (mtime : Nat)
  | dir (children : List (List Char)) (mtime : Nat)
  | link (target : Path)
  deriving DecidableEq, Repr

def Entry.mtime? : Entry → Option Nat
  | .file _ mtime | .dir _ mtime => some mtime
  | .link _ => none

/-- A disk in memory with a logical clock: whatever is written later is newer. -/
structure VirtualDisk where
  entries : List (Location × Entry)
  clock : Nat
  deriving DecidableEq, Repr

namespace VirtualDisk

def new : VirtualDisk := ⟨[(.here, .dir [] 0)], 1⟩

def get? (disk : VirtualDisk) (loc : Location) : Option Entry :=
  disk.entries.lookup loc

def set (disk : VirtualDisk) (loc : Location) (entry : Entry) : VirtualDisk :=
  { disk with entries := Assoc.set loc entry disk.entries }

def erase (disk : VirtualDisk) (loc : Location) : VirtualDisk :=
  { disk with entries := Assoc.erase loc disk.entries }

def tick (disk : VirtualDisk) : VirtualDisk :=
  { disk with clock := disk.clock + 1 }

def linkChild (disk : VirtualDisk) (parent loc : Location) : VirtualDisk :=
  match disk.get? parent, loc.name? with
  | some (.dir children mtime), some name =>
      if name ∈ children then disk else disk.set parent (.dir (children ++ [name]) mtime)
  | _, _ => disk

def addDir (disk : VirtualDisk) (loc : Location) : VirtualDisk :=
  disk.tick.set loc (.dir [] disk.clock)

-- The steps are listed last first.
def ensureDirAt (rooted : Bool) : List (List Char) → VirtualDisk → VirtualDisk
  | [], disk =>
      if (disk.get? ⟨rooted, []⟩).isSome then disk else disk.addDir ⟨rooted, []⟩
  | name :: above, disk =>
      let loc : Location := ⟨rooted, (name :: above).reverse⟩
      if (disk.get? loc).isSome then disk
      else (ensureDirAt rooted above (disk.addDir loc)).linkChild ⟨rooted, above.reverse⟩ loc

def ensureDir (disk : VirtualDisk) (loc : Location) : VirtualDisk :=
  ensureDirAt loc.rooted loc.steps.reverse disk

/-- Puts an entry in place and lists it in its directory, which is made when missing. -/
def insertEntry (disk : VirtualDisk) (loc : Location) (entry : Entry) : VirtualDisk :=
  let disk := disk.set loc entry
  match loc.parent? with
  | some parent => if parent = loc then disk else (disk.ensureDir parent).linkChild parent loc
  | none => disk

def addFileAt (disk : VirtualDisk) (loc : Location) (content : List UInt8) : VirtualDisk :=
  disk.tick.insertEntry loc (.file content disk.clock)

def write (disk : VirtualDisk) (path : Path) (content : List UInt8) : VirtualDisk :=
  disk.addFileAt (.ofPath path) content

def touch (disk : VirtualDisk) (path : Path) : VirtualDisk :=
  let loc := Location.ofPath path
  let now := disk.clock
  let disk := disk.tick
  match disk.get? loc with
  | some (.file content _) => disk.set loc (.file content now)
  | some (.dir children _) => disk.set loc (.dir children now)
  | _ => disk.addFileAt loc []

def unlinkChild (disk : VirtualDisk) (parent loc : Location) : VirtualDisk :=
  match disk.get? parent, loc.name? with
  | some (.dir children mtime), some name =>
      disk.set parent (.dir (children.filter fun child => !decide (child = name)) mtime)
  | _, _ => disk

def remove (disk : VirtualDisk) (path : Path) : VirtualDisk :=
  let loc := Location.ofPath path
  let disk := disk.erase loc
  match loc.parent? with
  | some parent => disk.unlinkChild parent loc
  | none => disk

def linkLimit : Nat := 16

def followFrom (disk : VirtualDisk) : Nat → Location → Option Entry
  | 0, _ => none
  | depth + 1, loc =>
      match disk.get? loc with
      | some (.link target) => disk.followFrom depth (loc.linkTarget target)
      | entry => entry

def follow (disk : VirtualDisk) (loc : Location) : Option Entry :=
  disk.followFrom (linkLimit + 1) loc

def mtimeFrom (disk : VirtualDisk) : Nat → Location → Option Nat
  | 0, _ => none
  | depth + 1, loc =>
      match disk.get? loc with
      | some (.file _ mtime) | some (.dir _ mtime) => some mtime
      | some (.link target) => disk.mtimeFrom depth (loc.linkTarget target)
      | none => none

def mtimeOf (disk : VirtualDisk) (path : Path) : Option Nat :=
  disk.mtimeFrom (linkLimit + 1) (.ofPath path)

def present (disk : VirtualDisk) (path : Path) : Bool :=
  (disk.mtimeOf path).isSome

def isFile (disk : VirtualDisk) (path : Path) : Bool :=
  match disk.follow (.ofPath path) with
  | some (.file _ _) => true
  | _ => false

def isDir (disk : VirtualDisk) (path : Path) : Bool :=
  match disk.follow (.ofPath path) with
  | some (.dir _ _) => true
  | _ => false

def isLink (disk : VirtualDisk) (path : Path) : Bool :=
  match disk.get? (.ofPath path) with
  | some (.link _) => true
  | _ => false

-- Reading follows links without a limit; more links than entries go round in circles.
def readFrom (disk : VirtualDisk) : Nat → Location → Path → Except DiskFault String
  | 0, _, asked => .error (.linkLoop asked)
  | depth + 1, loc, asked =>
      match disk.get? loc with
      | some (.file content _) =>
          match Text.decodeUtf8 content with
          | .ok text => .ok text
          | .error fault => .error (.notText fault)
      | some (.link target) =>
          let next := loc.linkTarget target
          disk.readFrom depth next next.toPath
      | some (.dir _ _) => .error (.isDirectory asked)
      | none => .error (.notFound asked)

def readText (disk : VirtualDisk) (path : Path) : Except DiskFault String :=
  disk.readFrom (disk.entries.length + 1) (.ofPath path) path

def removeFile (disk : VirtualDisk) (path : Path) : Except DiskFault Unit × VirtualDisk :=
  match disk.get? (.ofPath path) with
  | some (.file _ _) | some (.link _) => (.ok (), disk.remove path)
  | some (.dir _ _) => (.error (.isDirectory path), disk)
  | none => (.error (.notFound path), disk)

def createDirs (disk : VirtualDisk) (path : Path) : Except DiskFault Unit × VirtualDisk :=
  let loc := Location.ofPath path
  match disk.get? loc with
  | some (.dir _ _) => (.ok (), disk)
  | some _ => (.error (.notDirectory loc.toPath), disk)
  | none => (.ok (), disk.ensureDir loc)

def symlink (disk : VirtualDisk) (target link : Path) : Except DiskFault Unit × VirtualDisk :=
  let loc := Location.ofPath link
  match disk.get? loc with
  | some _ => (.error (.alreadyThere loc.toPath), disk)
  | none => (.ok (), disk.insertEntry loc (.link target))

def readDir (disk : VirtualDisk) (path : Path) : Except DiskFault (List Path) :=
  match disk.follow (.ofPath path) with
  | some (.dir children _) => .ok (children.map fun name => path.join ⟨String.ofList name⟩)
  | _ => .error (.notListable path)

def extent (disk : VirtualDisk) : Nat :=
  disk.entries.length + 1

instance : Disk VirtualDisk where
  present := present
  isFile := isFile
  isDir := isDir
  isLink := isLink
  modified disk path := .ok (disk.mtimeOf path)
  removeFile := removeFile
  createDirs := createDirs
  symlink := symlink
  readDir := readDir
  extent := extent

theorem mtimeFrom_eq (disk : VirtualDisk) (depth : Nat) (loc : Location) :
    disk.mtimeFrom depth loc = (disk.followFrom depth loc).bind Entry.mtime? := by
  induction depth generalizing loc with
  | zero => rfl
  | succ depth ih =>
      rw [mtimeFrom, followFrom]
      cases disk.get? loc with
      | none => rfl
      | some entry =>
          cases entry with
          | file | dir => rfl
          | link target => exact ih _

theorem mtimeOf_eq_follow (disk : VirtualDisk) (path : Path) :
    disk.mtimeOf path = (disk.follow (.ofPath path)).bind Entry.mtime? :=
  disk.mtimeFrom_eq (linkLimit + 1) (.ofPath path)

theorem mtimeOf_eq_of_follow {disk other : VirtualDisk} {path target : Path}
    (looks : disk.follow (.ofPath path) = other.follow (.ofPath target)) :
    disk.mtimeOf path = other.mtimeOf target := by
  rw [mtimeOf_eq_follow, looks, mtimeOf_eq_follow]

theorem get?_set (disk : VirtualDisk) (loc other : Location) (entry : Entry) :
    (disk.set loc entry).get? other = if other = loc then some entry else disk.get? other :=
  Assoc.lookup_set loc other entry disk.entries

theorem get?_erase (disk : VirtualDisk) (loc other : Location) :
    (disk.erase loc).get? other = if other = loc then none else disk.get? other :=
  Assoc.lookup_erase loc other disk.entries

@[simp] theorem get?_tick (disk : VirtualDisk) (loc : Location) :
    disk.tick.get? loc = disk.get? loc := rfl

@[simp] theorem clock_set (disk : VirtualDisk) (loc : Location) (entry : Entry) :
    (disk.set loc entry).clock = disk.clock := rfl

@[simp] theorem clock_erase (disk : VirtualDisk) (loc : Location) :
    (disk.erase loc).clock = disk.clock := rfl

@[simp] theorem clock_tick (disk : VirtualDisk) : disk.tick.clock = disk.clock + 1 := rfl

end VirtualDisk

end ArtifactPipeline
