import ArtifactPipeline.Assoc
import ArtifactPipeline.Disk.Basic
import ArtifactPipeline.Text.Utf8

set_option autoImplicit false

namespace ArtifactPipeline

open Text (Octets)

abbrev Spot := List Octets

inductive HostFault where
  | missing
  | notDirectory
  | isDirectory
  | occupied
  | notEmpty
  | tooManyLinks
  | nameTooLong
  | denied
  | badFormat
  | badDescriptor
  | brokenPipe
  | noSpace
  | invalid
  deriving DecidableEq, Repr

def HostFault.message : HostFault → String
  | .missing => "No such file or directory"
  | .notDirectory => "Not a directory"
  | .isDirectory => "Is a directory"
  | .occupied => "File exists"
  | .notEmpty => "Directory not empty"
  | .tooManyLinks => "Too many levels of symbolic links"
  | .nameTooLong => "File name too long"
  | .denied => "Permission denied"
  | .badFormat => "Exec format error"
  | .badDescriptor => "Bad file descriptor"
  | .brokenPipe => "Broken pipe"
  | .noSpace => "No space left on device"
  | .invalid => "Invalid argument"

/-- Devices: they swallow what is written, but `full` refuses it; `null` is always empty, `zero` and
`full` give zero bytes and `random` any. -/
inductive Device where
  | null
  | zero
  | full
  | random
  deriving DecidableEq, Repr

inductive Inode where
  | file (content : Octets) (mtime mode : Nat)
  | dir (mtime mode : Nat)
  | link (target : Octets) (mtime : Nat)
  | device (device : Device)
  | fifo (mtime mode : Nat)
  | tool (name : String)
  deriving DecidableEq, Repr

structure HostDisk where
  names : List (Spot × Nat)
  inodes : List (Nat × Inode)
  next : Nat
  clock : Nat
  deriving Repr

inductive HostStep where
  | stay
  | up
  | enter (name : Octets)
  deriving DecidableEq, Repr

structure HostEntry where
  spot : Spot
  id : Nat
  node : Inode
  deriving Repr

inductive Lookup where
  | entry (entry : HostEntry)
  | free (spot : Spot)
  deriving Repr

namespace HostDisk

def isAbsoluteText : Octets → Bool
  | '/' :: _ => true
  | _ => false

def stepOf (segment : Octets) : HostStep :=
  if segment = ['.'] then .stay else if segment = ['.', '.'] then .up else .enter segment

def stepsOf (text : Octets) : List HostStep :=
  let steps := ((Text.splitOn '/' text).filter fun segment => !segment.isEmpty).map stepOf
  if text.getLast? = some '/' && !steps.isEmpty then steps ++ [.stay] else steps

def toolNames : List String := [
  "[", "arch", "awk", "b2sum", "base32", "base64", "basename", "basenc", "bash", "cat", "chmod",
  "cksum", "cmp", "comm", "cp", "cut", "dash", "date", "dd", "diff", "dirname", "echo", "egrep",
  "env", "expand", "expr", "false", "fgrep", "find", "fold", "grep", "groups", "head", "hostname",
  "id", "install", "kill", "link", "ln", "logname", "ls", "mawk", "md5sum", "mkdir", "mkfifo",
  "mknod", "mktemp", "mv", "nawk", "nice", "nl", "nohup", "nproc", "od", "paste", "printenv",
  "printf", "pwd", "readlink", "realpath", "rev", "rm", "rmdir", "sed", "seq", "setsid", "sh",
  "sha1sum", "sha224sum", "sha256sum", "sha384sum", "sha512sum", "sleep", "sort", "split", "stat",
  "stdbuf", "sum", "sync", "tac", "tail", "tee", "test", "timeout", "touch", "tr", "true",
  "truncate", "tty", "uname", "unexpand", "uniq", "unlink", "wc", "which", "whoami", "xargs",
  "yes"
]

def directoryMode : Nat := 0o755

def systemNode? (spot : Spot) : Option Inode :=
  match spot.map String.ofList with
  | [] => some (.dir 0 directoryMode)
  | ["bin"] => some (.link "usr/bin".toList 0)
  | ["dev"] | ["etc"] | ["tmp"] | ["usr"] | ["usr", "bin"] => some (.dir 0 directoryMode)
  | ["dev", "null"] => some (.device .null)
  | ["dev", "zero"] => some (.device .zero)
  | ["dev", "full"] => some (.device .full)
  | ["dev", "random"] | ["dev", "urandom"] => some (.device .random)
  | ["usr", "bin", name] => if toolNames.contains name then some (.tool name) else none
  | _ => none

def get? (disk : HostDisk) (spot : Spot) : Option HostEntry :=
  match disk.names.lookup spot with
  | some id => (disk.inodes.lookup id).map fun node => ⟨spot, id, node⟩
  | none => (systemNode? spot).map fun node => ⟨spot, 0, node⟩

def inode? (disk : HostDisk) (id : Nat) : Option Inode :=
  disk.inodes.lookup id

def setInode (disk : HostDisk) (id : Nat) (node : Inode) : HostDisk :=
  { disk with inodes := Assoc.set id node disk.inodes }

def name (disk : HostDisk) (spot : Spot) (id : Nat) : HostDisk :=
  { disk with names := Assoc.set spot id disk.names }

def add (disk : HostDisk) (spot : Spot) (node : Inode) : HostDisk :=
  let disk := (disk.setInode disk.next node).name spot disk.next
  { disk with next := disk.next + 1 }

def unname (disk : HostDisk) (spot : Spot) : HostDisk :=
  { disk with names := Assoc.erase spot disk.names }

def nameLimit : Nat := 255

def pathLimit : Nat := 4096

/-- Follows steps from a directory, and links along the way. At most `links` of them are followed;
a link at the end only if `follow` says so. -/
def walk (disk : HostDisk) (follow : Bool) (links : Nat) (base : Spot) :
    List HostStep → Except HostFault Lookup
  | [] =>
      match disk.get? base with
      | some entry => .ok (.entry entry)
      | none => .error .missing
  | .stay :: rest => walk disk follow links base rest
  | .up :: rest => walk disk follow links base.dropLast rest
  | .enter name :: rest =>
      let spot := base ++ [name]
      if nameLimit < name.length then .error .nameTooLong
      else
        match disk.get? spot with
        | none => if rest.isEmpty then .ok (.free spot) else .error .missing
        | some ⟨_, _, .dir _ _⟩ => walk disk follow links spot rest
        | some ⟨_, id, .link target mtime⟩ =>
            if rest.isEmpty && !follow then .ok (.entry ⟨spot, id, .link target mtime⟩)
            else
              match links with
              | 0 => .error .tooManyLinks
              | links + 1 =>
                  walk disk follow links (if isAbsoluteText target then [] else base)
                    (stepsOf target ++ rest)
        | some entry => if rest.isEmpty then .ok (.entry entry) else .error .notDirectory
termination_by steps => (links, steps.length)

def linkLimit : Nat := 40

def find (disk : HostDisk) (follow : Bool) (cwd : Spot) (path : Octets) :
    Except HostFault Lookup :=
  if path.isEmpty then .error .missing
  else if path.contains (Char.ofNat 0) then .error .invalid
  else if pathLimit ≤ path.length then .error .nameTooLong
  else disk.walk follow linkLimit (if isAbsoluteText path then [] else cwd) (stepsOf path)

def entryOf : Except HostFault Lookup → Except HostFault HostEntry
  | .ok (.entry entry) => .ok entry
  | .ok (.free _) => .error .missing
  | .error fault => .error fault

def stat (disk : HostDisk) (cwd : Spot) (path : Octets) : Except HostFault HostEntry :=
  entryOf (disk.find true cwd path)

def lstat (disk : HostDisk) (cwd : Spot) (path : Octets) : Except HostFault HostEntry :=
  entryOf (disk.find false cwd path)

def mtimeOf : Inode → Nat
  | .file _ mtime _ | .dir mtime _ | .link _ mtime | .fifo mtime _ => mtime
  | .device _ | .tool _ => 0

def modeOf : Inode → Nat
  | .file _ _ mode | .dir _ mode | .fifo _ mode => mode
  | .link _ _ => 0o777
  | .device _ => 0o666
  | .tool _ => 0o755

def isExecutable (mode : Nat) : Bool :=
  mode &&& 0o111 != 0

def tickLength : Nat := 1000

def tick (disk : HostDisk) : HostDisk :=
  { disk with clock := disk.clock + tickLength }

def stamp (disk : HostDisk) (spot : Spot) : HostDisk :=
  match disk.get? spot with
  | some ⟨_, id, .dir _ mode⟩ => if id = 0 then disk else disk.setInode id (.dir disk.clock mode)
  | _ => disk

def put (disk : HostDisk) (spot : Spot) (node : Inode) : HostDisk :=
  (disk.tick.add spot node).stamp spot.dropLast

def take (disk : HostDisk) (spot : Spot) : HostDisk :=
  (disk.tick.unname spot).stamp spot.dropLast

def inOrder (names : List Octets) : List Octets :=
  names.mergeSort fun a b => decide (String.ofList a ≤ String.ofList b)

def namesIn (disk : HostDisk) (dir : Spot) : List Octets :=
  let own := disk.names.filterMap fun (spot, _) =>
    match spot.getLast? with
    | some name => if spot.dropLast = dir then some name else none
    | none => none
  inOrder (if dir = [] then own ++ ["bin", "dev", "etc", "tmp", "usr"].map String.toList
    else if dir = ["usr".toList, "bin".toList] then own ++ toolNames.map String.toList
    else own)

def isDirAt (disk : HostDisk) (cwd : Spot) (path : Octets) : Bool :=
  match disk.stat cwd path with
  | .ok ⟨_, _, .dir _ _⟩ => true
  | _ => false

def withoutSlashes (path : Octets) : Octets :=
  let text := (path.reverse.dropWhile fun c => c == '/').reverse
  if text.isEmpty then path else text

def mkdir (disk : HostDisk) (mode : Nat) (cwd : Spot) (path : Octets) :
    Except HostFault HostDisk :=
  match disk.find false cwd path with
  | .error .nameTooLong => .error .nameTooLong
  | .error .invalid => .error .invalid
  | _ =>
      match disk.find false cwd (withoutSlashes path) with
      | .ok (.entry _) => .error .occupied
      | .ok (.free spot) => .ok (disk.put spot (.dir (disk.clock + tickLength) mode))
      | .error fault => .error fault

def ensureDir (disk : HostDisk) (cwd : Spot) (path : Octets) : Except HostFault Unit × HostDisk :=
  match disk.mkdir directoryMode cwd path with
  | .ok disk => (.ok (), disk)
  | .error fault => (if disk.isDirAt cwd path then .ok () else .error fault, disk)

/-- Creates the first of the directories. Only when its own directory is missing are the others, its
ancestors, created before it; they stay even if it cannot be created then. -/
def mkdirsAlong (disk : HostDisk) (cwd : Spot) : List Octets → Except HostFault Unit × HostDisk
  | [] => (.error .missing, disk)
  | path :: above =>
      if path.isEmpty then (.ok (), disk)
      else
        match disk.ensureDir cwd path with
        | (.error .missing, disk) =>
            match mkdirsAlong disk cwd above with
            | (.error fault, disk) => (.error fault, disk)
            | (.ok (), disk) => disk.ensureDir cwd path
        | result => result

def ancestors : Nat → Path → List Path
  | 0, path => [path]
  | depth + 1, path =>
      match path.parent? with
      | some parent => path :: ancestors depth parent
      | none => [path]

def mkdirs (disk : HostDisk) (cwd : Spot) (path : Path) : Except HostFault Unit × HostDisk :=
  disk.mkdirsAlong cwd ((ancestors path.components.length path).map fun path =>
    Text.octets path.text)

def unlink (disk : HostDisk) (cwd : Spot) (path : Octets) : Except HostFault HostDisk :=
  match disk.lstat cwd path with
  | .ok ⟨_, _, .dir _ _⟩ => .error .isDirectory
  | .ok entry => .ok (disk.take entry.spot)
  | .error fault => .error fault

def lastName (path : Octets) : Octets :=
  ((withoutSlashes path).reverse.takeWhile fun c => c != '/').reverse

def rmdir (disk : HostDisk) (cwd : Spot) (path : Octets) : Except HostFault HostDisk :=
  match disk.lstat cwd (withoutSlashes path) with
  | .ok ⟨spot, _, .dir _ _⟩ =>
      if lastName path = ['.'] then .error .invalid
      else if (disk.namesIn spot).isEmpty then .ok (disk.take spot)
      else .error .notEmpty
  | .ok _ => .error .notDirectory
  | .error fault => .error fault

def removeTree (disk : HostDisk) (spot : Spot) : HostDisk :=
  let names := disk.names.filter fun entry => !spot.isPrefixOf entry.1
  ({ disk with names } : HostDisk).tick.stamp spot.dropLast

def makeLink (disk : HostDisk) (cwd : Spot) (target link : Octets) : Except HostFault HostDisk :=
  if target.isEmpty then .error .missing
  else if target.contains (Char.ofNat 0) then .error .invalid
  else if pathLimit ≤ target.length then .error .nameTooLong
  else
    match disk.find false cwd link with
    | .ok (.entry _) => .error .occupied
    | .ok (.free spot) => .ok (disk.put spot (.link target (disk.clock + tickLength)))
    | .error fault => .error fault

def makeFifo (disk : HostDisk) (mode : Nat) (cwd : Spot) (path : Octets) :
    Except HostFault HostDisk :=
  match disk.find false cwd path with
  | .ok (.entry _) => .error .occupied
  | .ok (.free spot) => .ok (disk.put spot (.fifo (disk.clock + tickLength) mode))
  | .error fault => .error fault

def addName (disk : HostDisk) (cwd : Spot) (old new : Octets) : Except HostFault HostDisk :=
  match disk.lstat cwd old with
  | .error fault => .error fault
  | .ok ⟨_, _, .dir _ _⟩ => .error .denied
  | .ok entry =>
      match disk.find false cwd new with
      | .ok (.entry _) => .error .occupied
      | .ok (.free spot) => .ok ((disk.tick.name spot entry.id).stamp spot.dropLast)
      | .error fault => .error fault

def move (disk : HostDisk) (old new : Spot) : HostDisk :=
  let names := disk.names.map fun (spot, id) =>
    (if old.isPrefixOf spot then new ++ spot.drop old.length else spot, id)
  (({ disk with names } : HostDisk).tick.stamp old.dropLast).stamp new.dropLast

def rename (disk : HostDisk) (cwd : Spot) (old new : Octets) : Except HostFault HostDisk :=
  match disk.lstat cwd (withoutSlashes old), disk.find false cwd (withoutSlashes new) with
  | .error fault, _ => .error fault
  | _, .error fault => .error fault
  | .ok entry, .ok (.free spot) =>
      if entry.spot.isPrefixOf spot then .error .invalid else .ok (disk.move entry.spot spot)
  | .ok entry, .ok (.entry other) =>
      if entry.spot = other.spot || (entry.id = other.id && entry.id != 0) then .ok disk
      else if entry.spot.isPrefixOf other.spot then .error .invalid
      else
        match entry.node, other.node with
        | .dir _ _, .dir _ _ =>
            if (disk.namesIn other.spot).isEmpty then
              .ok ((disk.unname other.spot).move entry.spot other.spot)
            else .error .notEmpty
        | .dir _ _, _ => .error .notDirectory
        | _, .dir _ _ => .error .isDirectory
        | _, _ => .ok ((disk.unname other.spot).move entry.spot other.spot)

def writeAt (disk : HostDisk) (id offset : Nat) (more : Octets) : HostDisk :=
  match disk.inode? id with
  | some (.file content _ mode) =>
      if more.isEmpty then disk
      else
        let disk := disk.tick
        let size := content.length
        let content :=
          if size ≤ offset then
            content ++ List.replicate (offset - size) (Char.ofNat 0) ++ more
          else content.take offset ++ more ++ content.drop (offset + more.length)
        disk.setInode id (.file content disk.clock mode)
  | _ => disk

def resize (disk : HostDisk) (id size : Nat) : HostDisk :=
  match disk.inode? id with
  | some (.file content _ mode) =>
      let disk := disk.tick
      let content := content.take size ++ List.replicate (size - content.length) (Char.ofNat 0)
      disk.setInode id (.file content disk.clock mode)
  | _ => disk

def sizeOf (disk : HostDisk) (id : Nat) : Nat :=
  match disk.inode? id with
  | some (.file content _ _) => content.length
  | _ => 0

def create (disk : HostDisk) (keep : Bool) (mode : Nat) (cwd : Spot) (path : Octets) :
    Except HostFault (HostEntry × HostDisk) :=
  match disk.find true cwd path with
  | .error fault => .error fault
  | .ok (.free spot) =>
      let disk := disk.put spot (.file [] (disk.clock + tickLength) mode)
      match disk.get? spot with
      | some entry => .ok (entry, disk)
      | none => .error .missing
  | .ok (.entry ⟨_, _, .dir _ _⟩) => .error .isDirectory
  | .ok (.entry ⟨spot, id, .file content mtime mode⟩) =>
      .ok (⟨spot, id, .file content mtime mode⟩, if keep then disk else disk.resize id 0)
  | .ok (.entry entry) => .ok (entry, disk)

def read (disk : HostDisk) (cwd : Spot) (path : Octets) : Except HostFault Octets :=
  match disk.stat cwd path with
  | .ok ⟨_, _, .file content _ _⟩ => .ok content
  | .ok ⟨_, _, .dir _ _⟩ => .error .isDirectory
  | .ok _ => .ok []
  | .error fault => .error fault

def fileMode : Nat := 0o644

def writeFile (disk : HostDisk) (cwd : Spot) (path content : Octets) :
    Except HostFault HostDisk :=
  match disk.create false fileMode cwd path with
  | .ok (entry, disk) => .ok (disk.writeAt entry.id 0 content)
  | .error fault => .error fault

def setTime (disk : HostDisk) (entry : HostEntry) (mtime : Nat) : HostDisk :=
  match entry.node with
  | .file content _ mode => disk.setInode entry.id (.file content mtime mode)
  | .dir _ mode => disk.setInode entry.id (.dir mtime mode)
  | .link target _ => disk.setInode entry.id (.link target mtime)
  | .fifo _ mode => disk.setInode entry.id (.fifo mtime mode)
  | _ => disk

def setMode (disk : HostDisk) (entry : HostEntry) (mode : Nat) : HostDisk :=
  match entry.node with
  | .file content mtime _ => disk.setInode entry.id (.file content mtime mode)
  | .dir mtime _ => disk.setInode entry.id (.dir mtime mode)
  | .fifo mtime _ => disk.setInode entry.id (.fifo mtime mode)
  | _ => disk

def spotText (spot : Spot) : Octets :=
  '/' :: Text.joinWith ['/'] spot

def spotOf (path : Octets) : Spot :=
  (Text.splitOn '/' path).filter fun segment => !segment.isEmpty

def fresh (spot : Spot) (clock : Nat) : HostDisk :=
  let dirs := (List.range spot.length).map fun depth => spot.take (depth + 1)
  dirs.foldl (fun disk dir => disk.add dir (.dir clock directoryMode)) ⟨[], [], 1, clock⟩

end HostDisk

end ArtifactPipeline
