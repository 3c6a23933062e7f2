import ArtifactPipeline.Host.Tools.Permission

set_option autoImplicit false

namespace ArtifactPipeline.Tools

open Text (Octets)

def sizeOf (disk : HostDisk) (entry : HostEntry) : Nat :=
  match entry.node with
  | .file content _ _ => content.length
  | .dir _ _ => 4096
  | .link target _ => target.length
  | .fifo _ _ => 0
  | .device _ | .tool _ => disk.sizeOf entry.id

def clusterSize : Nat := 4096

def shortLink : Nat := 60

def roomOf (disk : HostDisk) (entry : HostEntry) : Nat :=
  match entry.node with
  | .link target _ => if target.length < shortLink then 0 else clusterSize
  | .device _ | .fifo _ _ => 0
  | _ => (sizeOf disk entry + clusterSize - 1) / clusterSize * clusterSize

def kindLetter : Inode → Char
  | .file _ _ _ | .tool _ => '-'
  | .dir _ _ => 'd'
  | .link _ _ => 'l'
  | .device _ => 'c'
  | .fifo _ _ => 'p'

def modeText (node : Inode) : Octets :=
  kindLetter node :: Permission.letters (HostDisk.modeOf node)

def nameCount (disk : HostDisk) (entry : HostEntry) : Nat :=
  match entry.node with
  | .dir _ _ =>
      2 + ((disk.namesIn entry.spot).filter fun name =>
        match disk.get? (entry.spot ++ [name]) with
        | some ⟨_, _, .dir _ _⟩ => true
        | _ => false).length
  | _ => max 1 (disk.names.filter fun name => name.2 == entry.id).length

def deviceNumbers : Device → Nat × Nat
  | .null => (1, 3)
  | .zero => (1, 5)
  | .full => (1, 7)
  | .random => (1, 9)

end ArtifactPipeline.Tools
