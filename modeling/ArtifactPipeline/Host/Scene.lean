import ArtifactPipeline.Host.Disk

set_option autoImplicit false

namespace ArtifactPipeline

open Text (Octets)

inductive Ending where
  | exited (status : Nat)
  | signaled (signal : Nat)
  deriving DecidableEq, Repr

def Ending.status : Ending → Nat
  | .exited status => status
  | .signaled signal => 128 + signal

inductive Channel where
  | inode (id : Nat)
  | directory
  | pipe (id : Nat)
  | device (device : Device)
  | output
  | errors
  deriving DecidableEq, Repr

structure OpenFile where
  channel : Channel
  met : Option Nat := none
  offset : Nat := 0
  readable : Bool := false
  writable : Bool := false
  append : Bool := false
  deriving DecidableEq, Repr

structure ProcessRecord where
  cwd : Spot
  files : List (Nat × Nat) := []
  umask : Nat := 0o022
  group : Nat := 0
  niceness : Int := 0
  ignored : List Nat := []
  caught : List Nat := []
  pending : List Nat := []
  ending : Option Ending := none
  deriving Repr

structure Fifo where
  pipe : Nat
  readers : Nat := 0
  writers : Nat := 0

structure Scene where
  disk : HostDisk
  openFiles : List (Nat × OpenFile) := []
  pipes : List (Nat × Octets) := []
  fifos : List (Nat × Fifo) := []
  records : List (Nat × ProcessRecord) := []
  next : Nat := 1
  nextProcess : Nat := 4001
  self : Nat := 0
  printed : List Octets := []
  complaints : List Octets := []

namespace Scene

def record (scene : Scene) (process : Nat) : ProcessRecord :=
  (scene.records.lookup process).getD { cwd := [] }

def me (scene : Scene) : ProcessRecord :=
  scene.record scene.self

def setRecord (scene : Scene) (process : Nat) (record : ProcessRecord) : Scene :=
  { scene with records := Assoc.set process record scene.records }

def setMe (scene : Scene) (record : ProcessRecord) : Scene :=
  scene.setRecord scene.self record

def cwd (scene : Scene) : Spot :=
  scene.me.cwd

def attempt (scene : Scene) : Except HostFault HostDisk → Except HostFault Unit × Scene
  | .ok disk => (.ok (), { scene with disk })
  | .error fault => (.error fault, scene)

def fileOf? (scene : Scene) (descriptor : Nat) : Option (Nat × OpenFile) :=
  match scene.me.files.lookup descriptor with
  | some id => (scene.openFiles.lookup id).map fun file => (id, file)
  | none => none

def setFile (scene : Scene) (id : Nat) (file : OpenFile) : Scene :=
  { scene with openFiles := Assoc.set id file scene.openFiles }

def freeDescriptor (files : List (Nat × Nat)) (bound : Nat) : Nat :=
  ((List.range (files.length + 1)).map (bound + ·)).find? (fun descriptor =>
    (files.lookup descriptor).isNone) |>.getD bound

def attach (scene : Scene) (descriptor id : Nat) : Scene :=
  scene.setMe { scene.me with files := Assoc.set descriptor id scene.me.files }

def detach (scene : Scene) (descriptor : Nat) : Scene :=
  scene.setMe { scene.me with files := Assoc.erase descriptor scene.me.files }

def enter (scene : Scene) (file : OpenFile) : Nat × Scene :=
  (scene.next, { scene.setFile scene.next file with next := scene.next + 1 })

inductive Access where
  | reading
  | writing
  | appending
  | both
  deriving DecidableEq, Repr

def channelOf (entry : HostEntry) : Channel :=
  match entry.node with
  | .file _ _ _ => .inode entry.id
  | .dir _ _ => .directory
  | .device device => .device device
  | .link _ _ | .tool _ | .fifo _ _ => .device .null

def descriptorPath? (path : Octets) : Option Nat :=
  match String.ofList path with
  | "/dev/stdin" => some 0
  | "/dev/stdout" => some 1
  | "/dev/stderr" => some 2
  | _ =>
      if "/dev/fd/".toList.isPrefixOf path && (path.drop 8).all Char.isDigit then
        (String.ofList (path.drop 8)).toNat?
      else none

def spotOf (scene : Scene) (inode : Nat) : Spot :=
  ((scene.disk.names.find? fun entry => entry.2 = inode).map (·.1)).getD []

def entryOf (scene : Scene) (file : OpenFile) : HostEntry :=
  match file.channel with
  | .inode id => ⟨scene.spotOf id, id, (scene.disk.inode? id).getD (.device .null)⟩
  | .directory => ⟨[], 0, .dir 0 HostDisk.directoryMode⟩
  | .device device => ⟨[], 0, .device device⟩
  | .pipe _ | .output | .errors => ⟨[], 0, .fifo 0 0o600⟩

def stat (scene : Scene) (path : Octets) : Except HostFault HostEntry :=
  match (descriptorPath? path).map scene.fileOf? with
  | some (some (_, file)) => .ok (scene.entryOf file)
  | some none => .error .missing
  | none => scene.disk.stat scene.cwd path

def lstat (scene : Scene) (path : Octets) : Except HostFault HostEntry :=
  match (descriptorPath? path).map scene.fileOf? with
  | some (some (id, file)) =>
      let target := match file.channel with
        | .inode inode => HostDisk.spotText (scene.spotOf inode)
        | .device .null => "/dev/null".toList
        | _ => "pipe:[".toList ++ (Nat.repr (10000 + id)).toList ++ [']']
      .ok ⟨[], 0, .link target 0⟩
  | some none => .error .missing
  | none => scene.disk.lstat scene.cwd path

def living (scene : Scene) : List ProcessRecord :=
  (scene.records.map (·.2)).filter fun record => record.ending.isNone

def anyHolds (scene : Scene) (test : OpenFile → Bool) : Bool :=
  scene.living.any fun record => record.files.any fun (_, id) =>
    match scene.openFiles.lookup id with
    | some file => test file
    | none => false

def hasWriter (scene : Scene) (pipe : Nat) : Bool :=
  scene.anyHolds fun file => file.channel == .pipe pipe && file.writable

def hasReader (scene : Scene) (pipe : Nat) : Bool :=
  scene.anyHolds fun file => file.channel == .pipe pipe && file.readable

def pipeContent (scene : Scene) (pipe : Nat) : Octets :=
  (scene.pipes.lookup pipe).getD []

def makePipe (scene : Scene) (text : Octets) : Nat × Nat × Scene :=
  let pipe := scene.next
  let scene := { scene with pipes := Assoc.set pipe text scene.pipes, next := pipe + 1 }
  let (source, scene) := scene.enter { channel := .pipe pipe, readable := true }
  let (sink, scene) := scene.enter { channel := .pipe pipe, writable := true }
  (source, sink, scene)

def openFifo (scene : Scene) (access : Access) (inode : Nat) : Nat × Scene :=
  let (fifo, scene) : Fifo × Scene :=
    match scene.fifos.lookup inode with
    | some fifo => (fifo, scene)
    | none =>
        ({ pipe := scene.next },
          { scene with pipes := Assoc.set scene.next [] scene.pipes, next := scene.next + 1 })
  let scene :=
    if scene.hasReader fifo.pipe || scene.hasWriter fifo.pipe then scene
    else { scene with pipes := Assoc.set fifo.pipe [] scene.pipes }
  let reads := access == .reading || access == .both
  let writes := access != .reading
  let met := match access with
    | .reading => if scene.hasWriter fifo.pipe then none else some fifo.writers
    | .both => none
    | _ => if scene.hasReader fifo.pipe then none else some fifo.readers
  let fifo := { fifo with
    readers := fifo.readers + (if reads then 1 else 0)
    writers := fifo.writers + (if writes then 1 else 0) }
  let scene := { scene with fifos := Assoc.set inode fifo scene.fifos }
  scene.enter { channel := .pipe fifo.pipe, met, readable := reads, writable := writes }

def openPath (scene : Scene) (access : Access) (path : Octets) :
    Except HostFault (Nat × Scene) :=
  match (descriptorPath? path).bind scene.fileOf? with
  | some (id, _) => .ok (id, scene)
  | none =>
      if access = .reading then
        match scene.stat path with
        | .error fault => .error fault
        | .ok ⟨_, id, .fifo _ _⟩ => .ok (scene.openFifo access id)
        | .ok entry => .ok (scene.enter { channel := channelOf entry, readable := true })
      else
        let mode := 0o666 - (0o666 &&& scene.me.umask)
        match scene.disk.create (access != .writing) mode scene.cwd path with
        | .error fault => .error fault
        | .ok (⟨_, id, .fifo _ _⟩, _) => .ok (scene.openFifo access id)
        | .ok (entry, disk) =>
            .ok (({ scene with disk } : Scene).enter {
              channel := channelOf entry
              readable := access == .both
              writable := true
              append := access == .appending
            })

def isMet (scene : Scene) (id : Nat) : Bool :=
  match scene.openFiles.lookup id with
  | some { channel := .pipe pipe, met := some before, readable, .. } =>
      let opened := ((scene.fifos.find? fun entry => entry.2.pipe = pipe).map fun (_, fifo) =>
        if readable then fifo.writers else fifo.readers).getD 0
      before < opened
  | _ => true

def canRead (scene : Scene) (descriptor : Nat) : Bool :=
  match scene.fileOf? descriptor with
  | some (_, { channel := .pipe pipe, .. }) =>
      !(scene.pipeContent pipe).isEmpty || !scene.hasWriter pipe
  | _ => true

def noise : Nat → Nat → Octets
  | 0, _ => []
  | count + 1, state =>
      let state := (state * 6364136223846793005 + 1442695040888963407) % 18446744073709551616
      Char.ofNat (state / 72057594037927936) :: noise count state

def read (scene : Scene) (descriptor count : Nat) : Except HostFault Octets × Scene :=
  match scene.fileOf? descriptor with
  | none => (.error .badDescriptor, scene)
  | some (id, file) =>
      if !file.readable then (.error .badDescriptor, scene)
      else
        match file.channel with
        | .inode inode =>
            match scene.disk.inode? inode with
            | some (.file content _ _) =>
                let bytes := (content.drop file.offset).take count
                (.ok bytes, scene.setFile id { file with offset := file.offset + bytes.length })
            | _ => (.ok [], scene)
        | .directory => (.error .isDirectory, scene)
        | .pipe pipe =>
            let content := scene.pipeContent pipe
            (.ok (content.take count),
              { scene with pipes := Assoc.set pipe (content.drop count) scene.pipes })
        | .device .null => (.ok [], scene)
        | .device .random => (.ok (noise count (scene.disk.clock + file.offset)),
            scene.setFile id { file with offset := file.offset + count })
        | .device _ => (.ok (List.replicate count (Char.ofNat 0)), scene)
        | .output | .errors => (.ok [], scene)

def seek (scene : Scene) (descriptor offset : Nat) : Scene :=
  match scene.fileOf? descriptor with
  | some (id, file) =>
      match file.channel with
      | .inode _ => scene.setFile id { file with offset }
      | _ => scene
  | none => scene

def place? (scene : Scene) (descriptor : Nat) : Option Nat :=
  match scene.fileOf? descriptor with
  | some (_, { channel := .inode _, offset, .. }) => some offset
  | _ => none

def pipeLimit : Nat := 65536

def canWrite (scene : Scene) (descriptor : Nat) : Bool :=
  match scene.fileOf? descriptor with
  | some (_, { channel := .pipe pipe, .. }) =>
      (scene.pipeContent pipe).length < pipeLimit || !scene.hasReader pipe
  | _ => true

def write (scene : Scene) (descriptor : Nat) (bytes : Octets) : Except HostFault Unit × Scene :=
  match scene.fileOf? descriptor with
  | none => (.error .badDescriptor, scene)
  | some (id, file) =>
      if !file.writable then (.error .badDescriptor, scene)
      else
        match file.channel with
        | .inode inode =>
            let offset := if file.append then scene.disk.sizeOf inode else file.offset
            let scene := { scene with disk := scene.disk.writeAt inode offset bytes }
            (.ok (), scene.setFile id { file with offset := offset + bytes.length })
        | .directory => (.error .isDirectory, scene)
        | .pipe pipe =>
            if scene.hasReader pipe then
              (.ok (), { scene with
                pipes := Assoc.set pipe (scene.pipeContent pipe ++ bytes) scene.pipes })
            else (.error .brokenPipe, scene)
        | .device .full => if bytes.isEmpty then (.ok (), scene) else (.error .noSpace, scene)
        | .device _ => (.ok (), scene)
        | .output => (.ok (), { scene with printed := bytes :: scene.printed })
        | .errors => (.ok (), { scene with complaints := bytes :: scene.complaints })

def finish (scene : Scene) (process : Nat) (ending : Ending) : Scene :=
  let record := scene.record process
  if record.ending.isSome then scene
  else scene.setRecord process { record with files := [], ending := some ending }

def spawn (scene : Scene) : Nat × Scene :=
  let process := scene.nextProcess
  let record := { scene.me with pending := [], ending := none }
  (process, { scene.setRecord process record with nextProcess := process + 1 })

def isHarmless (signal : Nat) : Bool :=
  signal == 17 || signal == 18 || signal == 23 || signal == 28

def killSignal : Nat := 9

def signal (scene : Scene) (process signal : Nat) : Except HostFault Unit × Scene :=
  match scene.records.lookup process with
  | none => (.error .missing, scene)
  | some record =>
      if record.ending.isSome || signal = 0 then (.ok (), scene)
      else if signal != killSignal && record.ignored.contains signal then (.ok (), scene)
      else if signal != killSignal && record.caught.contains signal then
        (.ok (), scene.setRecord process { record with pending := record.pending ++ [signal] })
      else if isHarmless signal then (.ok (), scene)
      else (.ok (), scene.finish process (.signaled signal))

def signalGroup (scene : Scene) (group number : Nat) (others : List Nat) : Scene :=
  scene.records.foldl (fun found (process, record) =>
    if record.group = group && record.ending.isNone && !others.contains process then
      (found.signal process number).2
    else found) scene

def endingOf (scene : Scene) (process : Nat) : Option Ending :=
  (scene.record process).ending

end Scene

end ArtifactPipeline
