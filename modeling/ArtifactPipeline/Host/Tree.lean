import ArtifactPipeline.Host.Basic

set_option autoImplicit false

namespace ArtifactPipeline

inductive TreeKind where
  | file (text : String)
  | dir
  | link (target : Path)
  deriving DecidableEq, Repr

structure TreeEntry where
  path : String
  kind : TreeKind
  deriving DecidableEq, Repr

namespace Host

def treeBelow (disk : HostDisk) : Nat → Spot → String → List TreeEntry
  | 0, _, _ => []
  | depth + 1, dir, lead =>
      (disk.namesIn dir).flatMap fun name =>
        let spot := dir ++ [name]
        let path := lead ++ Text.ofOctets name
        match disk.get? spot with
        | some ⟨_, _, .file content _ _⟩ => [⟨path, .file (Text.ofOctets content)⟩]
        | some ⟨_, _, .dir _ _⟩ => ⟨path, .dir⟩ :: treeBelow disk depth spot (path ++ "/")
        | some ⟨_, _, .link target _⟩ => [⟨path, .link ⟨Text.ofOctets target⟩⟩]
        | _ => []

def tree (host : Host) (dir : Spot) : List TreeEntry :=
  treeBelow host.disk (host.disk.names.length + 1) dir ""

end Host

end ArtifactPipeline
